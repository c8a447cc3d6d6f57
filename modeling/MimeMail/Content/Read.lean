import MimeMail.Content.Basic
import MimeMail.Content.Entity
import MimeMail.Content.Multipart
import MimeMail.Header.Read

namespace MimeMail.Content

def defaultDepth : Nat := 10

variable [Charset.Library]

def leaf (fields : FieldMap) (body : Bytes) : Part :=
  let declared := (fields.mediaType?.bind (·.param? "charset".toList)).filter (!·.isEmpty)
  { charset := declared.getD defaultCharset
    encoding := (Descriptor.ofFields fields).encoding
    body := (declared.bind (Charset.decodeNamed? · body)).getD (Charset.decodeRaw body) }

inductive Component where
  | leaf (mediaType : Text) (part : Part)
  | nested (boundary : Text) (body : Bytes)

def component? (raw : Bytes) : Option Component :=
  match Entity.ofPart? raw with
  | none => none
  | some (fields, body) =>
    let d := Descriptor.ofFields fields
    if d.mediaType.isEmpty then
      some (.leaf plainText { encoding := d.encoding, body := Charset.decodeRaw body })
    else if d.isMultipart then
      if d.boundary.isEmpty then none else some (.nested d.boundary body)
    else some (.leaf d.mediaType (leaf fields body))

def leavesOf (inner : Text → Bytes → List (Text × Part)) (raw : Bytes) : List (Text × Part) :=
  match component? raw with
  | none => []
  | some (.leaf mediaType part) => [(mediaType, part)]
  | some (.nested boundary body) => inner boundary body

/-- The parts of a multipart body with their media types, in order, where `depth` levels of
multipart bodies are read. -/
def leaves (depth : Nat) (boundary : Text) (body : Bytes) : List (Text × Part) :=
  match depth with
  | 0 => []
  | depth + 1 => (Multipart.split boundary body).flatMap (leavesOf (leaves depth))

def ofMultipart (depth : Nat) (boundary : Text) (body : Bytes) : Content :=
  ofParts (leaves (max 1 depth) boundary body)

def single (mediaType encoding : Text) (body : Bytes) : Content :=
  ofParts [(mediaType, { encoding, body := Charset.decodeRaw body })]

def ofBody (depth : Nat) (d : Descriptor) (body : Bytes) : Content :=
  if d.version.isZero then single plainText defaultEncoding body
  else if !d.isMultipart then
    single (if d.mediaType.isEmpty then plainText else d.mediaType) d.encoding body
  else if d.boundary.isEmpty then single plainText d.encoding body
  else ofMultipart depth d.boundary body

def ofBody? (depth : Nat) (d : Descriptor) (body? : Option Bytes) : Except MailError Content :=
  match body? with
  | some body => .ok (ofBody depth d body)
  | none => .error .missingBody

end MimeMail.Content
