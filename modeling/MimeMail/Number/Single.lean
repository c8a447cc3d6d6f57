import MimeMail.Number.Rounding
import MimeMail.Text.Digits

namespace MimeMail

structure Single where
  bits : UInt32
  deriving DecidableEq

namespace Single

def zero : Single := ⟨0⟩

def isNegative (x : Single) : Bool := x.bits.toNat / 0x80000000 == 1

def exponentField (x : Single) : Nat := x.bits.toNat / 0x800000 % 256

def fraction (x : Single) : Nat := x.bits.toNat % 0x800000

def isFinite (x : Single) : Bool := x.exponentField < 255

def isNaN (x : Single) : Bool := !x.isFinite && x.fraction != 0

def isZero (x : Single) : Bool := x.bits.toNat % 0x80000000 == 0

def isPositive (x : Single) : Bool := !x.isNegative && !x.isZero && !x.isNaN

def isNonneg (x : Single) : Bool := x.isZero || x.isPositive

def equals (x y : Single) : Bool :=
  !x.isNaN && !y.isNaN && (x == y || (x.isZero && y.isZero))

def parts (x : Single) : Nat × Int :=
  if x.exponentField == 0 then (x.fraction, -149)
  else (0x800000 + x.fraction, x.exponentField - 150)

def ofRatio (a b : Nat) : Single :=
  let atPower (q : Int) : Nat × Nat := scaleTwo a b (-q)
  let q : Int := (a.log2 : Int) - b.log2 - 23
  let q := if (atPower q).1 / (atPower q).2 < 0x800000 then q - 1 else q
  let q := max q (-149)
  let m := roundDiv (atPower q).1 (atPower q).2
  ⟨UInt32.ofNat (min ((q + 149).toNat * 0x800000 + m) 0x7F800000)⟩

def ofDecimal (n : Nat) (e : Int) : Single :=
  let size : Int := (Digits.ofNat n).length + e
  if n == 0 || size < -60 then zero
  else if 60 < size then ⟨0x7F800000⟩
  else
    let (a, b) := scaleTen n 1 e
    ofRatio a b

def negate (x : Single) : Single := ⟨x.bits ^^^ 0x80000000⟩

def readExponent? (t : Text) : Option Int :=
  let (negative, digits) := Digits.takeSign t
  if digits.isEmpty || !digits.all Digits.isDigit then none
  else some (if negative then -((Digits.take digits).1 : Int) else (Digits.take digits).1)

def read? (t : Text) : Option Single :=
  let (negative, t) := Digits.takeSign t
  let whole := t.takeWhile Digits.isDigit
  let (places, rest) :=
    match t.dropWhile Digits.isDigit with
    | '.' :: r => (r.takeWhile Digits.isDigit, r.dropWhile Digits.isDigit)
    | r => ([], r)
  if whole.isEmpty && places.isEmpty then none
  else
    let exponent? : Option Int :=
      match rest with
      | [] => some 0
      | c :: r => if c == 'e' || c == 'E' then readExponent? r else none
    exponent?.map fun e =>
      let x := ofDecimal (Digits.take (whole ++ places)).1 (e - places.length)
      if negative then x.negate else x

def signText (x : Single) : Text := if x.isNegative then ['-'] else []

def tenths (x : Single) : Text :=
  if x.isNaN then "NaN".toList
  else if !x.isFinite then signText x ++ "inf".toList
  else
    let (m, q) := x.parts
    let (a, b) := scaleTwo (m * 10) 1 q
    let n := roundDiv a b
    signText x ++ Digits.ofNat (n / 10) ++ '.' :: Digits.ofNat (n % 10)

def nearest? (keeps : Nat → Bool) (a b : Nat) (e : Int) : Option Nat :=
  let (a, b) := scaleTen a b (-e)
  let low := a / b
  let first := roundDiv a b
  let second := if first == low then low + 1 else low
  if keeps first then some first else if keeps second then some second else none

/-- The fewest digits that read back as the finite positive number, and the power of ten of the last
one: of several, those nearest to the number. The first power tried is the one above the number,
because a number just below it may have it as its text. -/
def shortestDigits (x : Single) : Nat × Int :=
  let (m, q) := x.parts
  let (a, b) := scaleTwo m 1 q
  let top : Int := ((List.range 86).map fun (n : Nat) => (39 : Int) - (n : Int)).find? (fun e =>
    let (c, d) := scaleTen 1 1 e
    c * b ≤ a * d) |>.getD (-46)
  let found := (List.range 10).findSome? fun (n : Nat) =>
    let e := top + 1 - (n : Int)
    (nearest? (fun digits => ofDecimal digits e == x) a b e).map (·, e)
  found.getD (0, 0)

def shortest (x : Single) : Text :=
  if x.isZero then signText x ++ "0.0".toList
  else
    let (n, e) := shortestDigits ⟨x.bits &&& 0x7FFFFFFF⟩
    let digits := Digits.ofNat n
    let point : Int := digits.length + e
    signText x ++
      if 0 ≤ e && point ≤ 13 then digits ++ List.replicate e.toNat '0' ++ ".0".toList
      else if 0 < point && point ≤ 13 then
        digits.take point.toNat ++ '.' :: digits.drop point.toNat
      else if -6 < point && point ≤ 0 then
        "0.".toList ++ List.replicate (-point).toNat '0' ++ digits
      else
        digits.take 1 ++ (if digits.length == 1 then [] else '.' :: digits.drop 1) ++
          'e' :: (if 0 < point then ['+'] else []) ++ Digits.ofInt (point - 1)

end Single

end MimeMail
