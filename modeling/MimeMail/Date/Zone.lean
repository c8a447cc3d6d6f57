import MimeMail.Text.Digits

namespace MimeMail.Zone

def ofParts? (behind : Bool) (hours minutes : Nat) : Option Int :=
  if hours < 24 && minutes < 60 then
    let seconds : Int := (hours * 60 + minutes) * 60
    some (if behind then -seconds else seconds)
  else none

def sign? (mathMinus : Bool) : Text → Option (Bool × Text)
  | '+' :: r => some (false, r)
  | '-' :: r => some (true, r)
  | '\u2212' :: r => if mathMinus then some (true, r) else none
  | _ => none

def read? (mathMinus : Bool) (dropMark? : Text → Option Text) (t : Text) : Option (Int × Text) := do
  let (behind, t) ← sign? mathMinus t
  let (hours, t) ← Digits.read? 2 2 t
  let t ← dropMark? t
  let (minutes, t) ← Digits.read? 2 2 t
  let offset ← ofParts? behind hours minutes
  some (offset, t)

def abbreviations : List (String × String) := [
  ("EST", "-0500"), ("EDT", "-0400"), ("CST", "-0600"), ("CDT", "-0500"), ("MST", "-0700"),
  ("MDT", "-0600"), ("PST", "-0800"), ("PDT", "-0700"), ("GMT", "+0000"), ("UTC", "+0000"),
  ("UT", "+0000"), ("CEST", "+0200"), ("CET", "+0100"), ("JST", "+0900")]

def expand (t : Text) : Text :=
  match abbreviations.findSome? fun (name, offset) =>
      (dropStart? (name.toList.reverse ++ [' ']) t.reverse).map fun r => (r, offset) with
  | some (r, offset) => r.reverse ++ ' ' :: offset.toList
  | none => t

def letterHours? (name : Text) : Option Int :=
  match String.ofList (name.map Char.toLower) with
  | "gmt" | "ut" | "z" => some 0
  | "edt" => some (-4)
  | "est" | "cdt" => some (-5)
  | "cst" | "mdt" => some (-6)
  | "mst" | "pdt" => some (-7)
  | "pst" => some (-8)
  | _ =>
    match name with
    | [c] => if c.toLower == 'j' then none else some 0
    | _ => none

end MimeMail.Zone
