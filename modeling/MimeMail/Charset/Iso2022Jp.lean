import MimeMail.Charset.DoubleByte

namespace MimeMail.Iso2022Jp

inductive CodeSet where
  | ascii
  | roman
  | katakana
  | twoByte
  deriving DecidableEq

def switchTo? (a b : UInt8) : Option CodeSet :=
  if a == 0x28 && b == 0x42 then some .ascii
  else if a == 0x28 && b == 0x4A then some .roman
  else if a == 0x28 && b == 0x49 then some .katakana
  else if a == 0x24 && (b == 0x40 || b == 0x42) then some .twoByte
  else none

def char (set : CodeSet) (b : UInt8) : Char :=
  match set with
  | .ascii => plain b
  | .roman => if b == 0x5C then '¥' else if b == 0x7E then '‾' else plain b
  | .katakana => if 0x21 ≤ b && b ≤ 0x5F then Char.ofNat (0xFF40 + b.toNat) else '\uFFFD'
  | .twoByte => '\uFFFD'
where
  plain (b : UInt8) : Char :=
    if b < 0x80 && b != 0x0E && b != 0x0F then Char.ofNat b.toNat else '\uFFFD'

variable [Charset.Library]

def pair (a b : UInt8) : Char :=
  if 0x21 ≤ b && b ≤ 0x7E then (Charset.Library.jisX0208? a b).getD '\uFFFD' else '\uFFFD'

/-- Reads on in a set; `idle` says that nothing was read since the last switch. -/
def read (set : CodeSet) (idle : Bool) : Bytes → Text
  | [] => []
  | [b] => [if b == 0x1B then '\uFFFD' else char set b]
  | [a, b] =>
    if a == 0x1B then '\uFFFD' :: read set false [b]
    else if set == .twoByte && 0x21 ≤ a && a ≤ 0x7E && b != 0x1B then [pair a b]
    else char set a :: read set false [b]
  | a :: b :: c :: r =>
    if a == 0x1B then
      match switchTo? b c with
      | some next => if idle then '\uFFFD' :: read next true r else read next true r
      | none => '\uFFFD' :: read set false (b :: c :: r)
    else if set == .twoByte && 0x21 ≤ a && a ≤ 0x7E && b != 0x1B then
      pair a b :: read set false (c :: r)
    else char set a :: read set false (b :: c :: r)

def decode (bs : Bytes) : Text := read .ascii false bs

end MimeMail.Iso2022Jp
