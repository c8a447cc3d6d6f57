import MimeMail.Text.Basic

namespace MimeMail.Toml

inductive Origin where
  | braces
  | header
  -- It lies on the path to a table that a header names.
  | implied
  | dotted
  deriving DecidableEq

inductive Value where
  | text (t : Text)
  | integer (n : Int)
  | boolean (b : Bool)
  | float (t : Text)
  | dateTime (t : Text)
  | array (values : List Value)
  | table (origin : Origin) (entries : List (Text × Value))
  | series (tables : List (List (Text × Value)))

abbrev Entries := List (Text × Value)

namespace Entries

def get? (entries : Entries) (key : Text) : Option Value :=
  (entries.find? (·.1 == key)).map (·.2)

def set (entries : Entries) (key : Text) (value : Value) : Entries :=
  if entries.any (·.1 == key) then
    entries.map fun entry => if entry.1 == key then (key, value) else entry
  else entries ++ [(key, value)]

end Entries

def isBlank (c : Char) : Bool := c == ' ' || c == '\t'

def isPrintable (c : Char) : Bool := c == '\t' || (0x20 ≤ c.toNat && c.toNat != 0x7F)

def skipBlanks (t : Text) : Text := t.dropWhile isBlank

def skipTrivia.go : Bool → Text → Text
  | _, [] => []
  | comment, c :: r =>
    if c == '\n' then go false r
    else if c == '\r' && r.head? == some '\n' then go false r
    else if comment && isPrintable c then go true r
    else if !comment && isBlank c then go false r
    else if !comment && c == '#' then go true r
    else c :: r

def skipTrivia (t : Text) : Text := skipTrivia.go false t

def lineEnd? (t : Text) : Option Text :=
  let t := skipBlanks t
  let t := if t.head? == some '#' then t.dropWhile isPrintable else t
  match t with
  | [] => some []
  | '\n' :: r => some r
  | '\r' :: '\n' :: r => some r
  | _ => none

end MimeMail.Toml
