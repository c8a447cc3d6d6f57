import MimeMail.Text.Basic

namespace MimeMail

structure Grammar where
  flags : List String := []
  options : List String := []
  lists : List String := []
  operands : Nat := 0

structure Arguments where
  flags : List Text := []
  options : List (Text × Text) := []
  operands : List Text := []

namespace Arguments

def option? (x : Arguments) (name : String) : Option Text :=
  (x.options.find? (·.1 == name.toList)).map (·.2)

def list (x : Arguments) (name : String) : List Text :=
  x.options.filterMap fun (n, value) => if n == name.toList then some value else none

def flag (x : Arguments) (name : String) : Bool := x.flags.contains name.toList

def isDashed (t : Text) : Bool := t.head? == some '-' && t != ['-']

def long? : Text → Option (Text × Option Text)
  | '-' :: '-' :: r =>
    match Text.cutAt ['='] r with
    | some (name, value) => some (name, some value)
    | none => some (r, none)
  | _ => none

def isVerbose (t : Text) : Bool :=
  t == "--verbose".toList ||
    match t with
    | '-' :: 'v' :: r => r.all (· == 'v')
    | _ => false

def addOption (g : Grammar) (x : Arguments) (name value : Text) : Option Arguments :=
  let isNew := !x.options.any (·.1 == name)
  if g.lists.contains (String.ofList name) || (g.options.contains (String.ofList name) && isNew) then
    some { x with options := x.options ++ [(name, value)] }
  else none

def addFlag (g : Grammar) (x : Arguments) (name : Text) : Option Arguments :=
  if g.flags.contains (String.ofList name) && !x.flags.contains name then
    some { x with flags := x.flags ++ [name] }
  else none

def addOperand (g : Grammar) (x : Arguments) (t : Text) : Option Arguments :=
  if x.operands.length < g.operands then some { x with operands := x.operands ++ [t] } else none

def readFrom (g : Grammar) (x : Arguments) : List Text → Option Arguments
  | [] => some x
  | t :: r =>
    if t == ['-', '-'] then r.foldlM (addOperand g) x
    else if isVerbose t then readFrom g x r
    else if !isDashed t then (addOperand g x t).bind fun x => readFrom g x r
    else
      match long? t with
      | some (name, some value) => (addOption g x name value).bind fun x => readFrom g x r
      | some (name, none) =>
        match addFlag g x name with
        | some x => readFrom g x r
        | none =>
          match r with
          | value :: r =>
            if isDashed value then none
            else (addOption g x name value).bind fun x => readFrom g x r
          | [] => none
      | none => none

def read? (g : Grammar) (ts : List Text) : Option Arguments := readFrom g {} ts

end Arguments

end MimeMail
