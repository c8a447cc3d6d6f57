import MimeMail.Command.Arguments

namespace MimeMail

inductive Command where
  | parse (path : Text) (json decode : Bool)
  | list (directory : Text) (json : Bool)
  | serialize (path : Text)
  | compose (sender : Text) (receivers : List Text) (subject : Text) (body : Option Text)
  | version
  deriving DecidableEq

namespace Command

def path? (t : Text) : Option Text := if t.isEmpty then none else some t

def parse? (ts : List Text) : Option Command := do
  let x ← Arguments.read? { flags := ["json", "decode"], operands := 1 } ts
  let path ← x.operands.head?.bind path?
  some (.parse path (x.flag "json") (x.flag "decode"))

def list? (ts : List Text) : Option Command := do
  let x ← Arguments.read? { flags := ["json"], operands := 1 } ts
  let directory ← x.operands.head?.bind path?
  some (.list directory (x.flag "json"))

def serialize? (ts : List Text) : Option Command := do
  let x ← Arguments.read? { operands := 1 } ts
  let path ← x.operands.head?.bind path?
  some (.serialize path)

def compose? (ts : List Text) : Option Command := do
  let x ← Arguments.read? { options := ["from", "subject", "body"], lists := ["to"] } ts
  let sender ← x.option? "from"
  let receivers := x.list "to"
  if receivers.isEmpty || x.option? "body" == some [] then none
  else some (.compose sender receivers ((x.option? "subject").getD []) (x.option? "body"))

def isVersion (t : Text) : Bool :=
  t == "--version".toList ||
    match t with
    | '-' :: r => (r.dropWhile (· == 'v')).head? == some 'V'
    | _ => false

def ofArguments? : List Text → Option Command
  | [] => none
  | t :: r =>
    if Arguments.isVerbose t then ofArguments? r
    else if isVersion t then some .version
    else
      match String.ofList t with
      | "parse" => parse? r
      | "list" => list? r
      | "serialize" => serialize? r
      | "compose" => compose? r
      | _ => none

end Command

end MimeMail
