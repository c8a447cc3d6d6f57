import MimeMail.Text.Basic

namespace MimeMail.Digits

def value? (c : Char) : Option Nat :=
  if '0' ≤ c && c ≤ '9' then some (c.toNat - '0'.toNat) else none

def isDigit (c : Char) : Bool := (value? c).isSome

def hexValue? (c : Char) : Option Nat :=
  if '0' ≤ c && c ≤ '9' then some (c.toNat - '0'.toNat)
  else if 'a' ≤ c && c ≤ 'f' then some (c.toNat - 'a'.toNat + 10)
  else if 'A' ≤ c && c ≤ 'F' then some (c.toNat - 'A'.toNat + 10)
  else none

def number (base : Nat) (digits : List Nat) : Nat := digits.foldl (fun n d => n * base + d) 0

def ofNat (n : Nat) : Text := Nat.toDigits 10 n

def padded (width n : Nat) : Text := Text.padLeft '0' width (ofNat n)

def ofInt (n : Int) : Text := if n < 0 then '-' :: ofNat n.natAbs else ofNat n.natAbs

def signed? (negative : Bool) (size : Nat) : Option Int :=
  let n : Int := if negative then -size else size
  if -0x8000000000000000 ≤ n && n < 0x8000000000000000 then some n else none

def takeSign : Text → Bool × Text
  | '-' :: r => (true, r)
  | '+' :: r => (false, r)
  | t => (false, t)

def take (t : Text) : Nat × Text :=
  (number 10 ((t.takeWhile isDigit).filterMap value?), t.dropWhile isDigit)

def read? (least most : Nat) (t : Text) : Option (Nat × Text) :=
  let digits := (t.take most).takeWhile isDigit
  if digits.length < least then none
  else some (number 10 (digits.filterMap value?), t.drop digits.length)

end MimeMail.Digits
