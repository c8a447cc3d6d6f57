import MimeMail.Toml.Scalar

namespace MimeMail.Toml

abbrev Key := List Text

inductive Statement where
  | pair (key : Key) (value : Value)
  | table (key : Key)
  | series (key : Key)

def isBare (c : Char) : Bool := c.isAlphanum || c == '_' || c == '-'

def keyPart? (t : Text) : Option (Text × Text) :=
  match t with
  | '"' :: r => Quoted.basic? r
  | '\'' :: r => Quoted.literal? r
  | _ =>
    let name := t.takeWhile isBare
    if name.isEmpty then none else some (name, t.drop name.length)

def keyParts? (t : Text) : Option (Key × Text) :=
  match keyPart? (skipBlanks t) with
  | none => none
  | some (part, rest) =>
    match skipBlanks rest with
    | '.' :: r =>
      if r.length < t.length then (keyParts? r).map fun (parts, rest) => (part :: parts, rest)
      else none
    | rest => some ([part], rest)
termination_by t.length

def topDepth : Nat := 79

def key? (t : Text) : Option (Key × Text) :=
  (keyParts? t).filter fun (parts, _) => parts.length ≤ topDepth

def items? (read? : Text → Option (Value × Text)) (t : Text) : Option (List Value × Text) :=
  match skipTrivia t with
  | ']' :: r => some ([], r)
  | start =>
    match read? start with
    | none => none
    | some (value, rest) =>
      match skipTrivia rest with
      | ']' :: r => some ([value], r)
      | ',' :: r =>
        if r.length < t.length then
          (items? read? r).map fun (values, rest) => (value :: values, rest)
        else none
      | _ => none
termination_by t.length

def pair? (read? : Text → Option (Value × Text)) (t : Text) : Option ((Key × Value) × Text) := do
  let (key, t) ← key? t
  let t ← dropStart? ['='] t
  let (value, t) ← read? (skipBlanks t)
  some ((key, value), t)

def pairs? (read? : Text → Option (Value × Text)) (t : Text) :
    Option (List (Key × Value) × Text) :=
  match pair? read? t with
  | none => none
  | some (pair, rest) =>
    match skipBlanks rest with
    | '\x7d' :: r => some ([pair], r)
    | ',' :: r =>
      if r.length < t.length then (pairs? read? r).map fun (pairs, rest) => (pair :: pairs, rest)
      else none
    | _ => none
termination_by t.length

/-- Walks along a path of keys, making the tables that are missing, and changes the entries of the
last one. A dotted key must not walk into a table with a header. -/
def atPath (dots : Bool) (change : Origin → Entries → Option Entries) :
    Key → Origin → Entries → Option Entries
  | [], origin, entries => change origin entries
  | part :: path, _, entries =>
    match entries.get? part with
    | none =>
      let origin := if dots then Origin.dotted else .implied
      (atPath dots change path origin []).map fun sub => entries.set part (.table origin sub)
    | some (.table origin sub) =>
      if origin == .braces || (dots && origin == .header) then none
      else (atPath dots change path origin sub).map fun sub => entries.set part (.table origin sub)
    | some (.series tables) =>
      match tables.getLast? with
      | some sub =>
        (atPath dots change path .header sub).map fun sub =>
          entries.set part (.series (tables.dropLast ++ [sub]))
      | none => none
    | some _ => none

def addPair (key : Key) (value : Value) (entries : Entries) : Option Entries :=
  let path := key.dropLast
  atPath true
    (fun origin entries =>
      let name := key.getLastD []
      if (origin == .dotted) == path.isEmpty || (entries.get? name).isSome then none
      else some (entries.set name value))
    path .header entries

def addPairs (pairs : List (Key × Value)) : Option Entries :=
  pairs.foldlM (fun entries (key, value) => addPair key value entries) []

def value? (depth : Nat) (t : Text) : Option (Value × Text) :=
  match depth, t with
  | _, '"' :: _ => (Quoted.read? t).map fun (s, rest) => (.text s, rest)
  | _, '\'' :: _ => (Quoted.read? t).map fun (s, rest) => (.text s, rest)
  | depth + 1, '[' :: r => (items? (value? depth) r).map fun (values, rest) => (.array values, rest)
  | depth + 1, '\x7b' :: r =>
    match skipBlanks r with
    | '\x7d' :: rest => some (.table .braces [], rest)
    | _ => do
      let (pairs, rest) ← pairs? (value? depth) r
      let entries ← addPairs pairs
      some (.table .braces entries, rest)
  | _, _ => Scalar.read? t

def header? (close : Text) (t : Text) : Option (Key × Text) := do
  let (key, t) ← key? t
  let t ← dropStart? close t
  some (key, t)

def statement? (t : Text) : Option (Statement × Text) :=
  match t with
  | '[' :: '[' :: r => (header? "]]".toList r).map fun (key, rest) => (.series key, rest)
  | '[' :: r => (header? "]".toList r).map fun (key, rest) => (.table key, rest)
  | _ => (pair? (value? topDepth) t).map fun ((key, value), rest) => (.pair key value, rest)

def statements? (t : Text) : Option (List Statement) :=
  match skipTrivia t with
  | [] => some []
  | start =>
    match (statement? start).bind fun (s, rest) => (lineEnd? rest).map fun rest => (s, rest) with
    | none => none
    | some (s, rest) =>
      if rest.length < t.length then (statements? rest).map (s :: ·) else none
termination_by t.length

end MimeMail.Toml
