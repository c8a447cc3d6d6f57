import MimeMail.Date.Instant
import MimeMail.Date.Zone

/-!
Dates of no fixed form. The numbers of the text are taken in order as day, month, year, hour,
minute, second and zone, and a sign goes on to the zone at once.
-/

namespace MimeMail

namespace LooseDate

/-- A place for digits. The first of them has the highest value, so that a number with fewer digits
than there is room counts for more until the place is closed. -/
structure Slot where
  value : Nat := 0
  room : Nat
  deriving DecidableEq

def Slot.push (slot : Slot) (d : Nat) : Slot :=
  if slot.room == 0 then slot
  else ⟨slot.value + d * Nat.pow 10 (slot.room - 1), slot.room - 1⟩

def Slot.close (slot : Slot) : Slot := { slot with value := slot.value / Nat.pow 10 slot.room }

structure Scan where
  slots : List Slot := [⟨0, 2⟩, ⟨0, 2⟩, ⟨0, 4⟩, ⟨0, 2⟩, ⟨0, 2⟩, ⟨0, 2⟩, ⟨0, 4⟩]
  place : Nat := 0
  month : Text := []
  behind : Bool := false
  inToken : Bool := false
  begun : Bool := false

def Scan.next (x : Scan) : Scan :=
  if x.inToken && x.begun then
    { x with slots := x.slots.modify x.place Slot.close, place := x.place + 1, inToken := false }
  else x

def Scan.take (x : Scan) (c : Char) : Scan :=
  match Digits.value? c with
  | some d =>
    let free := (x.slots[x.place]?.map Slot.room).getD 0 != 0
    { x with
      slots := x.slots.modify x.place (·.push d), begun := x.begun || free, inToken := true }
  | none =>
    if c.isAlpha then
      { x with month := if x.place == 1 then c :: x.month else x.month, inToken := true }
    else if c == ' ' || c == '\t' then x.next
    else if c == ':' && (x.place == 3 || x.place == 4) then x.next
    else if c == '+' then { x with place := 6 }
    else if c == '-' then { x with place := 6, behind := true }
    else if c == '(' then { x with inToken := false }
    else if c == ';' then {}
    else x

def withoutComments : Nat → Text → Text
  | _, [] => []
  | 0, '(' :: r => '(' :: withoutComments 1 r
  | 0, c :: r => c :: withoutComments 0 r
  | depth + 1, '\\' :: ')' :: r => withoutComments (depth + 1) r
  | depth + 1, '(' :: r => withoutComments (depth + 2) r
  | depth + 1, ')' :: r => withoutComments depth r
  | depth + 1, _ :: r => withoutComments (depth + 1) r

def weight (c : Char) : Nat :=
  match c.toLower with
  | 'a' | 't' | 'y' => 0
  | 'c' | 'l' => 4
  | 'r' | 'u' => 5
  | 'e' | 'n' => 10
  | 'b' | 'g' => 14
  | 'o' | 'p' | 'v' => 15
  | _ => 31

def monthOfWeight (n : Nat) : Nat :=
  match n with
  | 10 => 1
  | 24 => 2
  | 5 => 3
  | 20 => 4
  | 0 => 5
  | 15 => 6
  | 9 => 7
  | 19 => 8
  | 25 => 9
  | 4 => 10
  | 30 => 11
  | 14 => 12
  | _ => 0

def Scan.monthNumber (x : Scan) (number : Nat) : Nat :=
  match x.month with
  | [c, b, _] => if weight b + weight c ≤ 30 then monthOfWeight (weight b + weight c) else number
  | _ => number

def fullYear (n : Nat) : Nat :=
  if n < 50 then 2000 + n else if n < 100 then 1900 + n else n

def read? (t : Text) : Option Instant :=
  let x := (withoutComments 0 t).foldl Scan.take {}
  match x.slots.map Slot.value with
  | [day, month, year, hour, minute, second, zone] =>
    if x.place < 6 then none
    else
      (Zone.ofParts? x.behind (zone / 100) (zone % 100)).bind
        (Instant.ofCivil? ⟨fullYear year, x.monthNumber month, day⟩ ⟨hour, minute, second⟩)
  | _ => none

end LooseDate

end MimeMail
