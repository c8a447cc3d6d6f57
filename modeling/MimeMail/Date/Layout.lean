import MimeMail.Date.Instant
import MimeMail.Date.Zone

namespace MimeMail

namespace Layout

inductive Item where
  | mark (c : Char)
  | gap
  | day
  | monthName
  | monthNumber
  | year
  | yearOfCentury
  | hour
  | minute
  | second
  | zone
  deriving DecidableEq

structure Reading where
  date : Date := ⟨0, 0, 0⟩
  clock : Clock := ⟨0, 0, 0⟩
  offset : Int := 0

def readYear? (t : Text) : Option (Int × Text) :=
  match t with
  | '-' :: r => (Digits.read? 1 r.length r).map fun (n, r) => (-(n : Int), r)
  | '+' :: r => (Digits.read? 1 r.length r).map fun (n, r) => ((n : Int), r)
  | _ => (Digits.read? 1 4 t).map fun (n, r) => ((n : Int), r)

def dropColons (t : Text) : Text := t.dropWhile fun c => c == ':' || Text.isBlank c

def readShort? (t : Text) : Option (Nat × Text) := Digits.read? 1 2 (Text.trimStart t)

def readItem? (item : Item) (x : Reading) (t : Text) : Option (Reading × Text) :=
  match item with
  | .mark c => (dropStart? [c] t).map (x, ·)
  | .gap => some (x, Text.trimStart t)
  | .day => (readShort? t).map fun (n, r) => ({ x with date.day := n }, r)
  | .monthName =>
    (Date.takeName? Date.monthNames t).map fun (i, r) => ({ x with date.month := i + 1 }, r)
  | .monthNumber => (readShort? t).map fun (n, r) => ({ x with date.month := n }, r)
  | .year => (readYear? (Text.trimStart t)).map fun (n, r) => ({ x with date.year := n }, r)
  | .yearOfCentury =>
    (readShort? t).map fun (n, r) => ({ x with date.year := if n < 70 then 2000 + n else 1900 + n }, r)
  | .hour => (readShort? t).map fun (n, r) => ({ x with clock.hour := n }, r)
  | .minute => (readShort? t).map fun (n, r) => ({ x with clock.minute := n }, r)
  | .second => (readShort? t).map fun (n, r) => ({ x with clock.second := n }, r)
  | .zone =>
    (Zone.read? true (fun t => some (dropColons t)) (Text.trimStart t)).map fun (offset, r) =>
      ({ x with offset := offset }, r)

def readItems? : List Item → Reading → Text → Option Reading
  | [], x, t => if t.isEmpty then some x else none
  | item :: items, x, t => (readItem? item x t).bind fun (x, t) => readItems? items x t

def read? (items : List Item) (t : Text) : Option Instant :=
  (readItems? items {} t).bind fun x => Instant.ofCivil? x.date x.clock x.offset

def clockItems : List Item := [.hour, .mark ':', .minute, .mark ':', .second]

/-- The layouts of dates with a zone. Years of two digits come first, because two digits are also a
year in full. -/
def zoned : List (List Item) := [
  [.day, .gap, .monthName, .gap, .yearOfCentury, .gap] ++ clockItems ++ [.gap, .zone],
  [.day, .gap, .monthName, .gap, .yearOfCentury, .gap, .hour, .mark ':', .minute, .gap, .zone],
  [.day, .gap, .monthName, .gap, .year, .gap] ++ clockItems ++ [.gap, .zone],
  [.day, .gap, .monthName, .gap, .year, .gap, .hour, .mark ':', .minute, .gap, .zone],
  [.day, .mark '-', .monthName, .mark '-', .year, .gap] ++ clockItems ++ [.gap, .zone]]

def zoneless : List (List Item) := [
  [.day, .gap, .monthName, .gap, .year, .gap] ++ clockItems,
  [.day, .mark '-', .monthName, .mark '-', .year, .gap] ++ clockItems,
  [.year, .mark '-', .monthNumber, .mark '-', .day, .gap] ++ clockItems]

end Layout

end MimeMail
