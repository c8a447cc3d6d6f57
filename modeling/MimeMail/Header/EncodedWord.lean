import MimeMail.Charset.Basic
import MimeMail.Text.Digits
import MimeMail.Transfer.Base64

/-!
Encoded words in header values: `=?charset?encoding?text?=`. A word that cannot be read stays as it
is written, and blanks between two words that are read are no part of the text. Words are written in
UTF-8 and base64, and only for a text that is not all ASCII.
-/

namespace MimeMail.EncodedWord

def hexByte? (a b : UInt8) : Option UInt8 :=
  match Digits.hexValue? (Char.ofNat a.toNat), Digits.hexValue? (Char.ofNat b.toNat) with
  | some m, some n => some (UInt8.ofNat (m * 16 + n))
  | none, some n => if a == 0x2B then some (UInt8.ofNat n) else none
  | _, none => none

def decodeQ : Bytes → Bytes
  | 0x3D :: a :: b :: r =>
    match hexByte? a b with
    | some byte => byte :: decodeQ r
    | none => 0x3D :: decodeQ (a :: b :: r)
  | b :: r => (if b == 0x5F then 0x20 else b) :: decodeQ r
  | [] => []

def decodeBody? (encoding body : Text) : Option Bytes :=
  if encoding == ['B'] || encoding == ['b'] then Base64.decode? (Text.trim body)
  else if encoding == ['Q'] || encoding == ['q'] then some (decodeQ (Utf8.encode body))
  else none

variable [Charset.Library]

def read? (t : Text) : Option (Text × Text) :=
  match Text.cutAt ['?'] t with
  | none => none
  | some (charset, t) =>
    if charset.isEmpty || charset.any Text.isBlank then none
    else
      match Text.cutAt ['?'] t with
      | none => none
      | some (encoding, t) =>
        match Text.cutAt ['?', '='] t with
        | none => none
        | some (body, rest) =>
          ((decodeBody? encoding body).bind (Charset.decodeNamed? charset)).map (·, rest)

theorem length_of_read {t word rest : Text} (h : read? t = some (word, rest)) :
    rest.length < t.length := by
  simp only [read?] at h
  split at h
  · simp at h
  · next h1 =>
    split at h
    · simp at h
    · split at h
      · simp at h
      · next h2 =>
        split at h
        · simp at h
        · next h3 =>
          obtain ⟨_, _, hr⟩ := Option.map_eq_some_iff.1 h
          cases hr
          have := Text.length_of_cutAt h1
          have := Text.length_of_cutAt h2
          have := Text.length_of_cutAt h3
          simp at *
          omega

/-- Decodes from a place on; `afterWord` says that a word that was read ends there. -/
def decodeFrom (afterWord : Bool) (t : Text) : Text :=
  match _h : Text.cutAt ['=', '?'] t with
  | none => t
  | some (before, rest) =>
    (if afterWord && before.all Text.isBlank then [] else before) ++
      match _hr : read? rest with
      | some (word, rest) => word ++ decodeFrom true rest
      | none => '=' :: '?' :: decodeFrom false rest
termination_by t.length
decreasing_by
  · have := Text.length_of_cutAt _h
    have := length_of_read _hr
    simp at *
    omega
  · have := Text.length_of_cutAt _h
    simp at *
    omega

def decode (t : Text) : Text := decodeFrom false t

def wordBytes : Nat := 45

def pieces (t : Text) : List Text := go t [] 0
where
  go : Text → Text → Nat → List Text
    | [], piece, _ => if piece.isEmpty then [] else [piece.reverse]
    | c :: r, piece, size =>
      if size + c.utf8Size ≤ wordBytes then go r (c :: piece) (size + c.utf8Size)
      else piece.reverse :: go r [c] c.utf8Size

def write (t : Text) : Text :=
  "=?UTF-8?B?".toList ++ Base64.encode (Utf8.encode t) ++ "?=".toList

def encode (t : Text) : Text :=
  if Text.isAscii t then t else Text.join [' '] ((pieces t).map write)

end MimeMail.EncodedWord
