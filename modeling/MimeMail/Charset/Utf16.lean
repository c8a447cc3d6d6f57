import MimeMail.Text.Basic

/-!
UTF-16 in either byte order. A surrogate without its partner and an odd last byte read as U+FFFD; a
high surrogate in front of an odd last byte makes one U+FFFD with it.
-/

namespace MimeMail.Utf16

def units (bigEndian : Bool) : Bytes → List (Option Nat)
  | a :: b :: r =>
    some (if bigEndian then a.toNat * 256 + b.toNat else b.toNat * 256 + a.toNat)
      :: units bigEndian r
  | [_] => [none]
  | [] => []

def isHigh (u : Nat) : Bool := 0xD800 ≤ u && u < 0xDC00

def isLow (u : Nat) : Bool := 0xDC00 ≤ u && u < 0xE000

def ofUnits : List (Option Nat) → Text
  | some u :: some v :: r =>
    if isHigh u && isLow v then
      Char.ofNat (0x10000 + (u - 0xD800) * 0x400 + (v - 0xDC00)) :: ofUnits r
    else if isHigh u || isLow u then '\uFFFD' :: ofUnits (some v :: r)
    else Char.ofNat u :: ofUnits (some v :: r)
  | some u :: r =>
    if isHigh u then ['\uFFFD']
    else (if isLow u then '\uFFFD' else Char.ofNat u) :: ofUnits r
  | none :: _ => ['\uFFFD']
  | [] => []

def decode (bigEndian : Bool) (bs : Bytes) : Text := ofUnits (units bigEndian bs)

end MimeMail.Utf16
