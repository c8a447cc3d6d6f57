import MimeMail.Date.Instant
import MimeMail.Date.Zone

namespace MimeMail

namespace InternetDate

def dropBlanks? : Text → Option Text
  | c :: r => if Text.isBlank c then some (Text.trimStart r) else none
  | [] => none

def readWeekday? (t : Text) : Option (Option Nat × Text) :=
  match Date.takeName? Date.weekdayNames t with
  | some (weekday, ',' :: r) => some (some weekday, r)
  | some _ => none
  | none => some (none, t)

def fullYear (places n : Nat) : Nat :=
  if places == 2 then if n < 50 then 2000 + n else 1900 + n
  else if places == 3 then 1900 + n
  else n

def readSecond? (t : Text) : Option (Nat × Text) :=
  match Text.trimStart t with
  | ':' :: r => Digits.read? 2 2 r
  | _ => some (0, t)

def readZone? (t : Text) : Option (Int × Text) :=
  let letters := t.takeWhile Char.isAlpha
  if letters.isEmpty then Zone.read? false some t
  else (Zone.letterHours? letters).map fun hours => (hours * 3600, t.drop letters.length)

def dropComment? : Nat → Text → Option Text
  | _, [] => none
  | depth, '\\' :: _ :: r => dropComment? depth r
  | depth, '(' :: r => dropComment? (depth + 1) r
  | 0, ')' :: r => some r
  | depth + 1, ')' :: r => dropComment? depth r
  | depth, _ :: r => dropComment? depth r

theorem length_of_dropComment {depth : Nat} {t rest : Text} (h : dropComment? depth t = some rest) :
    rest.length < t.length := by
  fun_induction dropComment? depth t with
  | case1 => simp at h
  | case2 _ c r ih =>
    have := ih h
    simp
    omega
  | case4 r =>
    cases h
    simp
  | case3 _ r ih | case5 _ r ih | case6 _ _ r _ _ _ _ ih =>
    have := ih h
    simp
    omega

def isComments (t : Text) : Bool :=
  if t.isEmpty then true
  else
    match _h : Text.trimStart t with
    | '(' :: r =>
      match _hr : dropComment? 0 r with
      | some rest => isComments rest
      | none => false
    | _ => false
termination_by t.length
decreasing_by
  have := length_of_dropComment _hr
  have h1 : (Text.trimStart t).length ≤ t.length :=
    (List.dropWhile_suffix (p := Text.isBlank) (l := t)).length_le
  rw [_h] at h1
  simp at *
  omega

def read? (t : Text) : Option Instant := do
  let (weekday, t) ← readWeekday? (Text.trimStart t)
  let (day, t) ← Digits.read? 1 2 (Text.trimStart t)
  let t ← dropBlanks? t
  let (month, t) ← Date.takeName? Date.monthNames t
  let t ← dropBlanks? t
  let (year, rest) ← Digits.read? 2 t.length t
  let date : Date := ⟨fullYear (t.length - rest.length) year, month + 1, day⟩
  let t ← dropBlanks? rest
  let (hour, t) ← Digits.read? 2 2 t
  let t ← dropStart? [':'] (Text.trimStart t)
  let (minute, t) ← Digits.read? 2 2 (Text.trimStart t)
  let (second, t) ← readSecond? t
  let t ← dropBlanks? t
  let (offset, t) ← readZone? t
  if isComments t && weekday.all (· == Date.weekday date.dayNumber) then
    Instant.ofCivil? date ⟨hour, minute, second⟩ offset
  else none

end InternetDate

end MimeMail
