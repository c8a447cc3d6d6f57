import MimeMail.Text.Digits

namespace MimeMail

inductive Json where
  | null
  | boolean (b : Bool)
  | number (t : Text)
  | text (t : Text)
  | array (values : List Json)
  | object (fields : List (Text × Json))

namespace Json

def escape (c : Char) : Text :=
  match c with
  | '"' => ['\\', '"']
  | '\\' => ['\\', '\\']
  | '\x08' => ['\\', 'b']
  | '\t' => ['\\', 't']
  | '\n' => ['\\', 'n']
  | '\x0C' => ['\\', 'f']
  | '\r' => ['\\', 'r']
  | _ =>
    if c.toNat < 0x20 then
      "\\u00".toList ++ [Nat.digitChar (c.toNat / 16), Nat.digitChar (c.toNat % 16)]
    else [c]

def quote (t : Text) : Text := '"' :: t.flatMap escape ++ ['"']

def newLine (depth : Nat) : Text := '\n' :: List.replicate (2 * depth) ' '

def bracket (first last : Char) (depth : Nat) (lines : List Text) : Text :=
  if lines.isEmpty then [first, last]
  else
    first :: Text.join [','] (lines.map fun line => newLine (depth + 1) ++ line) ++ newLine depth ++
      [last]

mutual

def render (depth : Nat) : Json → Text
  | null => "null".toList
  | boolean b => (if b then "true" else "false").toList
  | number t => t
  | text t => quote t
  | array values => bracket '[' ']' depth (renderValues (depth + 1) values)
  | object fields => bracket '\x7b' '\x7d' depth (renderFields (depth + 1) fields)

def renderValues (depth : Nat) : List Json → List Text
  | [] => []
  | value :: values => render depth value :: renderValues depth values

def renderFields (depth : Nat) : List (Text × Json) → List Text
  | [] => []
  | (name, value) :: fields =>
    (quote name ++ ':' :: ' ' :: render depth value) :: renderFields depth fields

end

end Json

end MimeMail
