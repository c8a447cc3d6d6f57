import MimeMail.Text.Digits

/-!
The Gregorian calendar, extended to all years, with days counted from 1 January 1970. Every day
number is that of its date.
-/

namespace MimeMail

structure Date where
  year : Int
  month : Nat
  day : Nat
  deriving DecidableEq

namespace Date

def isLeap (year : Int) : Bool := year % 4 == 0 && (year % 100 != 0 || year % 400 == 0)

def daysInMonth (year : Int) (month : Nat) : Nat :=
  if month == 2 then if isLeap year then 29 else 28
  else if month == 4 || month == 6 || month == 9 || month == 11 then 30 else 31

def isValid (date : Date) : Bool :=
  1 ≤ date.month && date.month ≤ 12 && 1 ≤ date.day && date.day ≤ daysInMonth date.year date.month

def origin : Int := 719468

def dayNumber (date : Date) : Int :=
  let y := if date.month ≤ 2 then date.year - 1 else date.year
  let m : Int := if date.month ≤ 2 then date.month + 9 else date.month - 3
  365 * y + y / 4 - y / 100 + y / 400 + (153 * m + 2) / 5 + date.day - 1 - origin

def ofDayNumber (n : Int) : Date :=
  let era := (n + origin) / 146097
  let d := (n + origin) % 146097
  let century := min 3 (d / 36524)
  let d := d - 36524 * century
  let quad := d / 1461
  let d := d - 1461 * quad
  let year := min 3 (d / 365)
  let d := d - 365 * year
  let y := 400 * era + 100 * century + 4 * quad + year
  let m := (5 * d + 2) / 153
  let day := d - (153 * m + 2) / 5 + 1
  if m < 10 then ⟨y, (m + 3).toNat, day.toNat⟩ else ⟨y + 1, (m - 9).toNat, day.toNat⟩

def weekday (n : Int) : Nat := ((n + 3) % 7).toNat

theorem dayNumber_of_march {y d m : Int} (hd0 : 0 ≤ d) (hd1 : d ≤ 365)
    (hm : m = (5 * d + 2) / 153) :
    dayNumber (if m < 10 then ⟨y, (m + 3).toNat, (d - (153 * m + 2) / 5 + 1).toNat⟩
      else ⟨y + 1, (m - 9).toNat, (d - (153 * m + 2) / 5 + 1).toNat⟩) =
      365 * y + y / 4 - y / 100 + y / 400 + d - origin := by
  have hm0 : 0 ≤ m := by omega
  have hm1 : m ≤ 11 := by omega
  have hday : 0 ≤ d - (153 * m + 2) / 5 := by omega
  clear hm
  split
  · have e1 : ¬ (m + 3).toNat ≤ 2 := by omega
    have e2 : ((m + 3).toNat : Int) - 3 = m := by omega
    simp only [dayNumber, e1, if_false, e2]
    omega
  · have e1 : (m - 9).toNat ≤ 2 := by omega
    have e2 : ((m - 9).toNat : Int) + 9 = m := by omega
    simp only [dayNumber, e1, if_true, e2]
    omega

theorem dayNumber_ofDayNumber (n : Int) : (ofDayNumber n).dayNumber = n := by
  have h0 : 0 ≤ (n + origin) % 146097 := Int.emod_nonneg _ (by decide)
  have h1 : (n + origin) % 146097 < 146097 := Int.emod_lt_of_pos _ (by decide)
  have he := Int.mul_ediv_add_emod (n + origin) 146097
  simp only [ofDayNumber]
  generalize (n + origin) / 146097 = era at *
  generalize (n + origin) % 146097 = d at *
  generalize hc : min 3 (d / 36524) = century
  have hc0 : 0 ≤ century ∧ century ≤ 3 := by omega
  have hd0 : 0 ≤ d - 36524 * century ∧ d - 36524 * century ≤ 36524 := by omega
  have hd1 : century < 3 → d - 36524 * century < 36524 := by omega
  clear hc h0 h1
  generalize hq : (d - 36524 * century) / 1461 = quad
  have hq0 : 0 ≤ quad ∧ quad ≤ 24 := by omega
  have hd2 : 0 ≤ d - 36524 * century - 1461 * quad ∧ d - 36524 * century - 1461 * quad < 1461 := by
    omega
  clear hq
  generalize hy : min 3 ((d - 36524 * century - 1461 * quad) / 365) = year
  have hy0 : 0 ≤ year ∧ year ≤ 3 := by omega
  have hd3 : 0 ≤ d - 36524 * century - 1461 * quad - 365 * year ∧
      d - 36524 * century - 1461 * quad - 365 * year ≤ 365 := by omega
  rw [dayNumber_of_march hd3.1 hd3.2 rfl]
  have q4 : (400 * era + 100 * century + 4 * quad + year) / 4 = 100 * era + 25 * century + quad := by
    omega
  have q100 : (400 * era + 100 * century + 4 * quad + year) / 100 = 4 * era + century := by omega
  have q400 : (400 * era + 100 * century + 4 * quad + year) / 400 = era := by omega
  rw [q4, q100, q400]
  omega

def monthNames : List String :=
  ["Jan", "Feb", "Mar", "Apr", "May", "Jun", "Jul", "Aug", "Sep", "Oct", "Nov", "Dec"]

def weekdayNames : List String := ["Mon", "Tue", "Wed", "Thu", "Fri", "Sat", "Sun"]

def takeName? (names : List String) (t : Text) : Option (Nat × Text) :=
  (names.findIdx? fun name => Text.same name.toList (t.take name.length)).map fun i =>
    (i, t.drop (names.getD i "").length)

end Date

end MimeMail
