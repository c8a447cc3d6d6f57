import MimeMail.Header.Fields
import MimeMail.Header.MediaType

namespace MimeMail.Entity

/-- Cuts at the first two line breaks of one kind in a row. -/
def split : Bytes → Bytes × Option Bytes
  | [] => ([], none)
  | 0x0A :: 0x0A :: r => ([], some r)
  | 0x0D :: 0x0A :: 0x0D :: 0x0A :: r => ([], some r)
  | b :: r => (b :: (split r).1, (split r).2)

def isHeaderLine (line : Text) : Bool :=
  (Text.trim line).isEmpty || Field.isFolded line ||
    match Text.cutAt [':'] line with
    | some (name, _) => MediaType.isToken (Text.trimEnd name)
    | none => false

def ofPart? (raw : Bytes) : Option (FieldMap × Bytes) :=
  match raw with
  | [] => none
  | 0x0D :: 0x0A :: body => some ({}, body)
  | 0x0A :: body => some ({}, body)
  | _ =>
    let (head, body?) := split raw
    let head := Charset.decodeRaw head
    match body? with
    | some body => some (FieldMap.ofText head, body)
    | none => if (Lines.ofText head).all isHeaderLine then some (FieldMap.ofText head, []) else none

end MimeMail.Entity
