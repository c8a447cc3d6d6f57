import MimeMail.Error
import MimeMail.Charset.Basic
import MimeMail.Text.Lines
import MimeMail.Text.Lowercase

namespace MimeMail

structure Field where
  name : Text
  value : Text
  deriving DecidableEq

namespace Field

def ofLine? (line : Text) : Option Field :=
  match Text.cutAt [':'] line with
  | none => none
  | some (name, value) =>
    let name := Text.lowercase (Text.trim name)
    if name.isEmpty then none else some ⟨name, Text.trim value⟩

def isFolded (line : Text) : Bool := line.head? == some ' ' || line.head? == some '\t'

def extend (value more : Text) : Text :=
  if more.isEmpty then value else if value.isEmpty then more else value ++ ' ' :: more

def absorb (fields : List Field) (line : Text) : List Field :=
  if isFolded line then
    match fields with
    | [] => []
    | field :: fields => { field with value := extend field.value (Text.trim line) } :: fields
  else
    match ofLine? line with
    | some field => field :: fields
    | none => fields

def ofText (t : Text) : List Field :=
  (((Lines.ofText t).takeWhile (!·.isEmpty)).foldl absorb []).reverse

end Field

structure FieldMap where
  entries : List (Text × List Text) := []
  deriving DecidableEq

namespace FieldMap

def addTo (field : Field) : List (Text × List Text) → List (Text × List Text)
  | [] => [(field.name, [field.value])]
  | (name, values) :: r =>
    if name == field.name then (name, values ++ [field.value]) :: r
    else (name, values) :: addTo field r

def insert (map : FieldMap) (field : Field) : FieldMap := ⟨addTo field map.entries⟩

def ofFields (fields : List Field) : FieldMap := fields.foldl insert {}

def ofText (t : Text) : FieldMap := ofFields (Field.ofText t)

def ofBytes (raw : Bytes) : Except MailError FieldMap :=
  if raw.isEmpty then .error .emptyHeader else .ok (ofText (Charset.decodeRaw raw))

def get? (map : FieldMap) (name : Text) : Option (List Text) :=
  (map.entries.find? fun entry => Text.same entry.1 name).map (·.2)

def first? (map : FieldMap) (name : Text) : Option Text := (map.get? name).bind List.head?

def contains (map : FieldMap) (name : Text) : Bool := (map.get? name).isSome

def size (map : FieldMap) : Nat := map.entries.length

def isEmpty (map : FieldMap) : Bool := map.entries.isEmpty

end FieldMap

end MimeMail
