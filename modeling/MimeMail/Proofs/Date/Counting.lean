import Mathlib
import MimeMail.Date.Instant

namespace MimeMail.Date

def daysInYear (year : ℤ) : ℕ := ((List.range' 1 12).map (daysInMonth year)).sum

def elapsed (date : Date) : ℕ :=
  ((List.range date.year.toNat).map fun n : ℕ => daysInYear n).sum +
    ((List.range' 1 (date.month - 1)).map (daysInMonth date.year)).sum + (date.day - 1)

def leapYears (year : ℤ) : ℤ := year / 4 - year / 100 + year / 400

theorem leapYears_eq (year : ℤ) :
    leapYears year = leapYears (year - 1) + if isLeap year then 1 else 0 := by
  have hleap : isLeap year = true ↔ year % 4 = 0 ∧ (year % 100 ≠ 0 ∨ year % 400 = 0) := by
    simp [isLeap]
  unfold leapYears
  split
  · next h =>
    rw [hleap] at h
    omega
  · next h =>
    rw [hleap] at h
    omega

theorem daysInYear_eq (year : ℤ) : daysInYear year = if isLeap year then 366 else 365 := by
  cases h : isLeap year <;> simp [daysInYear, List.range', daysInMonth, h]

theorem sum_daysInYear (n : ℕ) :
    (((List.range n).map fun n : ℕ => daysInYear n).sum : ℤ) = 365 * n + leapYears (n - 1) + 1 := by
  induction n with
  | zero => rfl
  | succ n ih =>
    have hn : ((n + 1 : ℕ) : ℤ) - 1 = n := by omega
    rw [List.range_succ, List.map_append, List.sum_append, List.map_singleton, List.sum_singleton,
      daysInYear_eq, Nat.cast_add, ih, hn, leapYears_eq n]
    split <;> omega

theorem sum_daysInMonth (year : ℤ) {month : ℕ} (h0 : 1 ≤ month) (h1 : month ≤ 12) :
    ((List.range' 1 (month - 1)).map (daysInMonth year)).sum =
      if month ≤ 2 then 31 * (month - 1)
      else 59 + (if isLeap year then 1 else 0) + (153 * (month - 3) + 2) / 5 := by
  interval_cases month <;> cases h : isLeap year <;> simp [List.range', daysInMonth, h]

theorem elapsed_eq {date : Date} (hy : 0 ≤ date.year) (hv : date.isValid = true) :
    (date.elapsed : ℤ) = date.dayNumber + 719528 := by
  simp only [isValid, Bool.and_eq_true, decide_eq_true_eq] at hv
  obtain ⟨⟨⟨hm0, hm1⟩, hd⟩, -⟩ := hv
  have hyears := sum_daysInYear date.year.toNat
  rw [Int.toNat_of_nonneg hy] at hyears
  rw [elapsed, Nat.cast_add, Nat.cast_add, hyears, sum_daysInMonth _ hm0 hm1]
  -- The number of a day counts the years from March.
  by_cases hm : date.month ≤ 2
  · have hday : date.dayNumber = 365 * (date.year - 1) + leapYears (date.year - 1) +
        (153 * (date.month + 9) + 2) / 5 + date.day - 1 - origin := by
      simp only [dayNumber, leapYears, if_pos hm]
      ring
    rw [hday, if_pos hm, origin]
    omega
  · have hday : date.dayNumber = 365 * date.year + leapYears date.year +
        (153 * (date.month - 3) + 2) / 5 + date.day - 1 - origin := by
      simp only [dayNumber, leapYears, if_neg hm]
      ring
    rw [hday, if_neg hm, origin, leapYears_eq date.year]
    split <;> omega

theorem dayNumber_eq_elapsed {date : Date} (hy : 0 ≤ date.year) (hv : date.isValid = true) :
    date.dayNumber = date.elapsed - (⟨1970, 1, 1⟩ : Date).elapsed := by
  have hepoch : (⟨1970, 1, 1⟩ : Date).dayNumber = 0 := by decide
  rw [elapsed_eq hy hv, elapsed_eq (by decide) (by decide), hepoch]
  omega

end MimeMail.Date
