import MimeMail.Text.Basic

/-!
UTF-8. A byte string is read as characters with a hole for each maximal ill-formed piece, so the
strict and the lenient reading are two views of one scan.
-/

namespace MimeMail.Utf8

def encode (t : Text) : Bytes := t.flatMap String.utf8EncodeChar

def head? (bs : Bytes) : Option Char := (bs.take 4).toByteArray.utf8DecodeChar? 0

def mayFollow (b c : UInt8) : Bool :=
  if b == 0xE0 then 0xA0 ≤ c && c ≤ 0xBF
  else if b == 0xED then 0x80 ≤ c && c ≤ 0x9F
  else if b == 0xF0 then 0x90 ≤ c && c ≤ 0xBF
  else if b == 0xF4 then 0x80 ≤ c && c ≤ 0x8F
  else 0xE1 ≤ b && b ≤ 0xF3 && 0x80 ≤ c && c ≤ 0xBF

def brokenSize : Bytes → Nat
  | b :: c :: d :: _ =>
    if mayFollow b c then if 0xF0 ≤ b && 0x80 ≤ d && d ≤ 0xBF then 3 else 2 else 1
  | [b, c] => if mayFollow b c then 2 else 1
  | _ => 1

/-- The characters of a byte string, and `none` for each ill-formed piece. -/
def scan (bs : Bytes) : List (Option Char) := go 0 bs
where
  go : Nat → Bytes → List (Option Char)
    | _, [] => []
    | n + 1, _ :: r => go n r
    | 0, b :: r =>
      match head? (b :: r) with
      | some c => some c :: go (c.utf8Size - 1) r
      | none => none :: go (brokenSize (b :: r) - 1) r

def decode? (bs : Bytes) : Option Text := (scan bs).mapM id

def decodeLossy (bs : Bytes) : Text := (scan bs).map (·.getD '\uFFFD')

end MimeMail.Utf8
