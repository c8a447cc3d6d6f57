import MimeMail.Proofs.Date.Counting
import MimeMail.Proofs.Date.HeaderText

namespace MimeMail

inductive DateForm where
  | short
  | shortMinutes
  | full
  | fullMinutes
  | hyphens
  deriving DecidableEq

namespace DateForm

def mark : DateForm → Char
  | hyphens => '-'
  | _ => ' '

def isShort : DateForm → Bool
  | short | shortMinutes => true
  | _ => false

def hasSeconds : DateForm → Bool
  | shortMinutes | fullMinutes => false
  | _ => true

def HasYear (form : DateForm) (year : ℤ) : Prop :=
  if form.isShort then 1970 ≤ year ∧ year ≤ 2069 else 0 ≤ year ∧ year ≤ 9999

def yearText (form : DateForm) (year : ℤ) : Text :=
  if form.isShort then Digits.padded 2 (year.toNat % 100) else Digits.padded 4 year.toNat

def clockText (form : DateForm) (clock : Clock) : Text :=
  Digits.padded 2 clock.hour ++ ':' :: (Digits.padded 2 clock.minute ++
    if form.hasSeconds then ':' :: Digits.padded 2 clock.second else [])

end DateForm

/-- A date with all that is free in the way it is written. The weekday is any of the seven, the
month is in any letter case, and a comment has no parenthesis inside. -/
structure WrittenDate where
  form : DateForm
  date : Date
  clock : Clock
  zone : ZoneName
  day : Text
  month : Text
  weekday : Option (Fin 7) := none
  comment : Option Text := none
  isValid_date : date.isValid = true
  hasYear : form.HasYear date.year
  hour_le : clock.hour ≤ 23
  minute_le : clock.minute ≤ 59
  second_le : clock.second ≤ 59
  isKnown_zone : zone.IsKnown
  day_eq : day = Digits.ofNat date.day ∨ day = Digits.padded 2 date.day
  month_eq : Text.same (Date.monthNames.getD (date.month - 1) "").toList month = true
  comment_eq : ∀ c ∈ comment, '(' ∉ c ∧ ')' ∉ c

namespace WrittenDate

def dated (x : WrittenDate) (zone : Text) : Text :=
  x.day ++ x.form.mark :: (x.month ++ x.form.mark :: (x.form.yearText x.date.year ++
    ' ' :: (x.form.clockText x.clock ++ ' ' :: zone)))

def shownClock (x : WrittenDate) : Clock :=
  { x.clock with second := if x.form.hasSeconds then x.clock.second else 0 }

def instantAt (x : WrittenDate) (offset : ℤ) : Instant :=
  { secs := (x.date.elapsed - (⟨1970, 1, 1⟩ : Date).elapsed) * 86400 +
      (x.shownClock.hour * 3600 + x.shownClock.minute * 60 + x.shownClock.second) - offset }

end WrittenDate

namespace Instant

theorem ofCivil?_eq {date : Date} {clock : Clock} {offset : ℤ}
    (hy : 0 ≤ date.year ∧ date.year ≤ 9999)
    (hv : date.isValid = true) (hh : clock.hour ≤ 23) (hm : clock.minute ≤ 59)
    (hs : clock.second ≤ 59) (ho : -86400 < offset ∧ offset < 86400) :
    ofCivil? date clock offset = some ⟨date.dayNumber * 86400 +
      (clock.hour * 3600 + clock.minute * 60 + clock.second) - offset, 0⟩ := by
  have hclock : clock.isValid = true := by
    simp only [Clock.isValid, Bool.and_eq_true, decide_eq_true_eq]
    omega
  have hyear {year : ℤ} (h : -400 ≤ year ∧ year ≤ 10400) : isYear year = true := by
    simp only [isYear, Bool.and_eq_true, decide_eq_true_eq]
    simp only [firstYear, lastYear]
    omega
  have hday : -719528 ≤ date.dayNumber ∧ date.dayNumber ≤ 2932896 := by
    have := Date.bounds_of_isValid hv
    simp only [Date.dayNumber, Date.origin]
    split <;> omega
  have hsecs : date.dayNumber * secondsPerDay +
      ((clock.hour * 60 + clock.minute) * 60 + min clock.second 59 : ℕ) - offset =
        date.dayNumber * 86400 + (clock.hour * 3600 + clock.minute * 60 + clock.second) - offset := by
    rw [secondsPerDay, min_eq_left hs]
    push_cast
    ring
  have hnanos : (clock.second == 60) = false := beq_false_of_ne (by omega)
  rw [ofCivil?, hv, hyear (by omega), hclock]
  simp only [Bool.and_self, if_true, hsecs, hnanos, Bool.false_eq_true, if_false]
  generalize hsum : date.dayNumber * 86400 +
    (clock.hour * 3600 + clock.minute * 60 + clock.second) - offset = secs
  have hera := Date.year_ofDayNumber (secs / secondsPerDay)
  rw [if_pos (hyear ?_)]
  simp only [Date.origin, secondsPerDay] at hera ⊢
  omega

end Instant

namespace WrittenDate

open Layout

variable (x : WrittenDate)

theorem year_bounds : 0 ≤ x.date.year ∧ x.date.year ≤ 9999 := by
  have h := x.hasYear
  unfold DateForm.HasYear at h
  split at h <;> omega

theorem ofCivil?_shownClock {offset : ℤ} (ho : -86400 < offset ∧ offset < 86400) :
    Instant.ofCivil? x.date x.shownClock offset = some (x.instantAt offset) := by
  have hs : x.shownClock.second ≤ 59 := by
    have := x.second_le
    rw [shownClock]
    dsimp only
    split <;> omega
  have hh : x.shownClock.hour ≤ 23 := x.hour_le
  have hm : x.shownClock.minute ≤ 59 := x.minute_le
  rw [Instant.ofCivil?_eq x.year_bounds x.isValid_date hh hm hs ho, instantAt,
    ← Date.dayNumber_eq_elapsed x.year_bounds.1 x.isValid_date]

section Items

variable (items : List Item) (y : Reading) (r : Text)

theorem readItems?_day :
    readItems? (.day :: items) y (x.day ++ x.form.mark :: r) =
      readItems? items { y with date.day := x.date.day } (x.form.mark :: r) := by
  have hmark : Digits.isDigit x.form.mark = false := by cases x.form <;> rfl
  have := Date.bounds_of_isValid x.isValid_date
  exact Layout.readItems?_day items y _ x.day_eq (by omega) (Digits.head_cons hmark)

theorem readItems?_month :
    readItems? (.monthName :: items) y (x.month ++ r) =
      readItems? items { y with date.month := x.date.month } r := by
  have := Date.bounds_of_isValid x.isValid_date
  have hm : x.date.month - 1 + 1 = x.date.month := by omega
  rw [Layout.readItems?_monthName items y r (by omega) x.month_eq, hm]

theorem readItems?_shortYear (h : x.form.isShort = true) :
    readItems? (.yearOfCentury :: items) y (x.form.yearText x.date.year ++ r) =
      readItems? items { y with date.year := x.date.year } r := by
  have hyear := x.hasYear
  rw [DateForm.HasYear, if_pos h] at hyear
  have hfull : (if x.date.year.toNat % 100 < 70 then 2000 + ((x.date.year.toNat % 100 : ℕ) : ℤ)
      else 1900 + ((x.date.year.toNat % 100 : ℕ) : ℤ)) = x.date.year := by
    split <;> omega
  rw [DateForm.yearText, if_pos h, Layout.readItems?_shortYear items y r (by omega), hfull]

theorem yearText_full (h : x.form.isShort = false) :
    x.form.yearText x.date.year = Instant.yearText x.date.year := by
  have hyear := x.year_bounds
  rw [DateForm.yearText, h, if_neg (by decide), Instant.yearText, if_pos (by simp [hyear])]

theorem readItems?_fullYear (h : x.form.isShort = false) :
    readItems? (.year :: items) y (x.form.yearText x.date.year ++ ' ' :: r) =
      readItems? items { y with date.year := x.date.year } (' ' :: r) := by
  rw [x.yearText_full h, readItems?_year]

theorem readItems?_fullYear_short (h : x.form.isShort = false) :
    readItems? (.yearOfCentury :: .gap :: .hour :: .mark ':' :: items) y
      (x.form.yearText x.date.year ++ ' ' :: r) = none := by
  rw [x.yearText_full h, readItems?_yearOfCentury]

theorem head_yearText : ∀ c ∈ (x.form.yearText x.date.year ++ r).head?, Text.isBlank c = false := by
  unfold DateForm.yearText
  split <;> exact Digits.isBlank_head_padded _ _ r

def yearAndClock (zone : Text) : Text :=
  x.form.yearText x.date.year ++ ' ' :: (x.form.clockText x.clock ++ ' ' :: zone)

theorem readItems?_spaced (zone : Text) (h : x.form.mark = ' ') :
    readItems? (.day :: .gap :: .monthName :: .gap :: items) y (x.dated zone) =
      readItems? items { y with date.month := x.date.month, date.day := x.date.day }
        (x.yearAndClock zone) := by
  have := Date.bounds_of_isValid x.isValid_date
  rw [dated, readItems?_day, h,
    readItems?_gap _ _ _ (Date.isBlank_head_month (by omega) x.month_eq _), readItems?_month,
    readItems?_gap _ _ _ (x.head_yearText _), yearAndClock]

theorem readItems?_hyphens (zone : Text) (h : x.form.mark = '-') :
    readItems? (.day :: .mark '-' :: .monthName :: .mark '-' :: items) y (x.dated zone) =
      readItems? items { y with date.month := x.date.month, date.day := x.date.day }
        (x.yearAndClock zone) := by
  rw [dated, readItems?_day, h, readItems?_mark, readItems?_month, readItems?_mark, yearAndClock]

theorem readItems?_hyphens_gap (zone : Text) (h : x.form.mark = '-') :
    readItems? (.day :: .gap :: .monthName :: items) y (x.dated zone) = none := by
  rw [dated, readItems?_day, h]
  rfl

theorem readItems?_hourMinute :
    readItems? (.gap :: .hour :: .mark ':' :: .minute :: items) y
      (' ' :: (x.form.clockText x.clock ++ r)) =
        readItems? items { y with clock.hour := x.clock.hour, clock.minute := x.clock.minute }
          ((if x.form.hasSeconds then ':' :: Digits.padded 2 x.clock.second else []) ++ r) := by
  have hhour := x.hour_le
  have hminute := x.minute_le
  rw [DateForm.clockText, List.append_assoc, List.cons_append, List.append_assoc,
    readItems?_gap _ _ _ (Digits.isBlank_head_padded 2 _ _), readItems?_hour _ _ _ (by omega),
    readItems?_mark, readItems?_minute _ _ _ (by omega)]

end Items

section Zone

variable (y : Reading) {behind : Bool} {hours minutes : ℕ}

theorem readItems?_gapZone (hh : hours ≤ 23) (hm : minutes ≤ 59) :
    readItems? [.gap, .zone] y (' ' :: Zone.offsetText behind hours minutes) =
      some { y with offset := Zone.offsetSeconds behind hours minutes } := by
  rw [readItems?_gap _ _ _ (by cases behind <;> simp [Zone.offsetText, Text.isBlank]),
    readItems?_zone y behind hh hm]

theorem readItems?_clock (h : x.form.hasSeconds = true) (hh : hours ≤ 23) (hm : minutes ≤ 59) :
    readItems? [.gap, .hour, .mark ':', .minute, .mark ':', .second, .gap, .zone] y
      (' ' :: (x.form.clockText x.clock ++ ' ' :: Zone.offsetText behind hours minutes)) =
        some { y with clock := x.shownClock, offset := Zone.offsetSeconds behind hours minutes } := by
  have hsecond := x.second_le
  rw [readItems?_hourMinute, if_pos h, List.cons_append, readItems?_mark,
    readItems?_second _ _ _ (by omega), readItems?_gapZone _ hh hm, shownClock, if_pos h]

theorem readItems?_clockMinutes (date : Date) (h : x.form.hasSeconds = false) (hh : hours ≤ 23)
    (hm : minutes ≤ 59) :
    readItems? [.gap, .hour, .mark ':', .minute, .gap, .zone] { date }
      (' ' :: (x.form.clockText x.clock ++ ' ' :: Zone.offsetText behind hours minutes)) =
        some ⟨date, x.shownClock, Zone.offsetSeconds behind hours minutes⟩ := by
  rw [readItems?_hourMinute, h, if_neg (by decide), List.nil_append, readItems?_gapZone _ hh hm,
    shownClock, h, if_neg (by decide)]

theorem readItems?_clock_eq_none (h : x.form.hasSeconds = false) (items : List Item) (zone : Text) :
    readItems? (.gap :: .hour :: .mark ':' :: .minute :: .mark ':' :: items) y
      (' ' :: (x.form.clockText x.clock ++ ' ' :: zone)) = none := by
  rw [readItems?_hourMinute, h, if_neg (by decide), List.nil_append,
    readItems?_mark_ne _ _ _ (by decide)]

theorem ofZoned?_dated (hh : hours ≤ 23) (hm : minutes ≤ 59) :
    Instant.ofZoned? (x.dated (Zone.offsetText behind hours minutes)) =
      some (x.instantAt (Zone.offsetSeconds behind hours minutes)) := by
  have hoffset : -86400 < Zone.offsetSeconds behind hours minutes ∧
      Zone.offsetSeconds behind hours minutes < 86400 := by
    unfold Zone.offsetSeconds
    split <;> omega
  have hcivil := x.ofCivil?_shownClock hoffset
  simp only [Instant.ofZoned?, zoned, clockItems, List.cons_append, List.nil_append,
    List.findSome?_cons, Layout.read?]
  -- No layout in front of the one of the form fits.
  cases hform : x.form with
  | short =>
    obtain ⟨hmark, hshort, hseconds⟩ : x.form.mark = ' ' ∧ x.form.isShort = true ∧
        x.form.hasSeconds = true := by
      rw [hform]
      exact ⟨rfl, rfl, rfl⟩
    simp only [x.readItems?_spaced _ _ _ hmark, yearAndClock, x.readItems?_shortYear _ _ _ hshort,
      x.readItems?_clock _ hseconds hh hm, Option.bind_some, hcivil]
  | shortMinutes =>
    obtain ⟨hmark, hshort, hseconds⟩ : x.form.mark = ' ' ∧ x.form.isShort = true ∧
        x.form.hasSeconds = false := by
      rw [hform]
      exact ⟨rfl, rfl, rfl⟩
    simp only [x.readItems?_spaced _ _ _ hmark, yearAndClock, x.readItems?_shortYear _ _ _ hshort,
      x.readItems?_clock_eq_none _ hseconds, Option.bind_none,
      x.readItems?_clockMinutes _ hseconds hh hm, Option.bind_some, hcivil]
  | full =>
    obtain ⟨hmark, hshort, hseconds⟩ : x.form.mark = ' ' ∧ x.form.isShort = false ∧
        x.form.hasSeconds = true := by
      rw [hform]
      exact ⟨rfl, rfl, rfl⟩
    simp only [x.readItems?_spaced _ _ _ hmark, yearAndClock,
      x.readItems?_fullYear_short _ _ _ hshort, Option.bind_none,
      x.readItems?_fullYear _ _ _ hshort, x.readItems?_clock _ hseconds hh hm, Option.bind_some,
      hcivil]
  | fullMinutes =>
    obtain ⟨hmark, hshort, hseconds⟩ : x.form.mark = ' ' ∧ x.form.isShort = false ∧
        x.form.hasSeconds = false := by
      rw [hform]
      exact ⟨rfl, rfl, rfl⟩
    simp only [x.readItems?_spaced _ _ _ hmark, yearAndClock,
      x.readItems?_fullYear_short _ _ _ hshort, x.readItems?_fullYear _ _ _ hshort,
      x.readItems?_clock_eq_none _ hseconds, Option.bind_none,
      x.readItems?_clockMinutes _ hseconds hh hm, Option.bind_some, hcivil]
  | hyphens =>
    obtain ⟨hmark, hshort, hseconds⟩ : x.form.mark = '-' ∧ x.form.isShort = false ∧
        x.form.hasSeconds = true := by
      rw [hform]
      exact ⟨rfl, rfl, rfl⟩
    simp only [x.readItems?_hyphens_gap _ _ _ hmark, Option.bind_none,
      x.readItems?_hyphens _ _ _ hmark, yearAndClock, x.readItems?_fullYear _ _ _ hshort,
      x.readItems?_clock _ hseconds hh hm, Option.bind_some, hcivil]

end Zone

end WrittenDate

end MimeMail
