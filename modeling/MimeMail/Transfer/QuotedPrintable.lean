import MimeMail.Text.Digits
import MimeMail.Text.Lines

/-!
Quoted-printable, read leniently. Characters that it has no room for are passed over, blanks at the
end of a line are transport padding, and an `=` that starts no pair of hexadecimal digits stands for
itself. Lines of the result end in CRLF.
-/

namespace MimeMail.QuotedPrintable

def allowed (c : Char) : Bool :=
  c == '\t' || c == '\r' || c == '\n' || (0x20 ≤ c.toNat && c.toNat ≤ 0x7E)

def byte (c : Char) : UInt8 := UInt8.ofNat c.toNat

/-- The bytes of a line without its end, and whether the line really ends there: it does not after a
single `=` at its end. -/
def decodeLine : Text → Bytes × Bool
  | ['='] => ([], false)
  | ['=', a] => ([byte '=', byte a], true)
  | '=' :: a :: b :: r =>
    let (bs, ends) := decodeLine r
    match Digits.hexValue? a, Digits.hexValue? b with
    | some m, some n => (UInt8.ofNat (m * 16 + n) :: bs, ends)
    | _, _ => (byte '=' :: byte a :: byte b :: bs, ends)
  | c :: r =>
    let (bs, ends) := decodeLine r
    (byte c :: bs, ends)
  | [] => ([], true)

def joinLines (closed : Bool) : List Text → Bytes
  | [] => []
  | line :: lines =>
    let (bs, ends) := decodeLine line
    bs ++ (if ends && (closed || !lines.isEmpty) then [13, 10] else []) ++ joinLines closed lines

def decode (t : Text) : Bytes :=
  let kept := t.filter allowed
  joinLines (kept.getLast? == some '\n') ((Lines.cutAfter '\n' kept).map Text.trimEnd)

end MimeMail.QuotedPrintable
