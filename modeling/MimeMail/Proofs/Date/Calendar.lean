import Mathlib
import MimeMail.Date.Calendar

namespace MimeMail.Date

theorem isLeap_of_quad {era century quad : ℤ} (hq : 0 ≤ quad ∧ quad ≤ 24)
    (hlast : quad = 24 → century = 3) :
    isLeap (400 * era + 100 * century + 4 * quad + 3 + 1) = true := by
  simp only [isLeap, Bool.and_eq_true, Bool.or_eq_true, beq_iff_eq, bne_iff_ne]
  omega

def marchLength (m : ℤ) (leap : Bool) : ℤ :=
  if m = 11 then if leap then 29 else 28
  else if m = 1 ∨ m = 3 ∨ m = 6 ∨ m = 8 then 30 else 31

theorem day_le_marchLength {d m : ℤ} {leap : Bool} (hd0 : 0 ≤ d) (hd1 : d ≤ 365)
    (hm : m = (5 * d + 2) / 153) (hl : d = 365 → leap = true) :
    d - (153 * m + 2) / 5 + 1 ≤ marchLength m leap := by
  unfold marchLength
  split
  · split
    · omega
    · have : d ≠ 365 := fun h => by simp_all
      omega
  · split <;> omega

theorem daysInMonth_spring {m y : ℤ} (leap : Bool) (h0 : 0 ≤ m) (h1 : m < 10) :
    (daysInMonth y (m + 3).toNat : ℤ) = marchLength m leap := by
  interval_cases m <;> rfl

theorem daysInMonth_winter {m y : ℤ} (h0 : 10 ≤ m) (h1 : m ≤ 11) :
    (daysInMonth y (m - 9).toNat : ℤ) = marchLength m (isLeap y) := by
  interval_cases m
  · rfl
  · change ((if isLeap y then 29 else 28 : ℕ) : ℤ) = if isLeap y then 29 else 28
    split <;> rfl

theorem isValid_of_march {y d m : ℤ} (hd0 : 0 ≤ d) (hd1 : d ≤ 365) (hm : m = (5 * d + 2) / 153)
    (hl : d = 365 → isLeap (y + 1) = true) :
    isValid (if m < 10 then ⟨y, (m + 3).toNat, (d - (153 * m + 2) / 5 + 1).toNat⟩
      else ⟨y + 1, (m - 9).toNat, (d - (153 * m + 2) / 5 + 1).toNat⟩) = true := by
  have hle := day_le_marchLength hd0 hd1 hm hl
  have hm0 : 0 ≤ m ∧ m ≤ 11 := by omega
  have hday : 1 ≤ d - (153 * m + 2) / 5 + 1 := by omega
  generalize d - (153 * m + 2) / 5 + 1 = day at *
  clear hd0 hd1 hl hm
  by_cases h : m < 10
  · have hlen := daysInMonth_spring (y := y) (isLeap (y + 1)) hm0.1 h
    rw [if_pos h]
    simp only [isValid, Bool.and_eq_true, decide_eq_true_eq]
    omega
  · have hlen := daysInMonth_winter (y := y + 1) (by omega) hm0.2
    rw [if_neg h]
    simp only [isValid, Bool.and_eq_true, decide_eq_true_eq]
    omega

theorem isValid_ofDayNumber (n : ℤ) : (ofDayNumber n).isValid = true := by
  have h0 : 0 ≤ (n + origin) % 146097 := Int.emod_nonneg _ (by decide)
  have h1 : (n + origin) % 146097 < 146097 := Int.emod_lt_of_pos _ (by decide)
  simp only [ofDayNumber]
  generalize (n + origin) / 146097 = era
  generalize (n + origin) % 146097 = d at *
  generalize hc : min 3 (d / 36524) = century
  have hc0 : 0 ≤ century ∧ century ≤ 3 := by omega
  have hd0 : 0 ≤ d - 36524 * century ∧ d - 36524 * century ≤ 36524 := by omega
  have hd1 : d - 36524 * century = 36524 → century = 3 := by omega
  clear hc h0 h1
  generalize d - 36524 * century = d at *
  generalize hq : d / 1461 = quad
  have hq0 : 0 ≤ quad ∧ quad ≤ 24 := by omega
  have hd2 : 0 ≤ d - 1461 * quad ∧ d - 1461 * quad ≤ 1460 := by omega
  have hq1 : d - 1461 * quad = 1460 → quad = 24 → century = 3 := by omega
  clear hq hd0 hd1
  generalize d - 1461 * quad = d at *
  generalize hy : min 3 (d / 365) = year
  have hd3 : 0 ≤ d - 365 * year ∧ d - 365 * year ≤ 365 := by omega
  have hy1 : d - 365 * year = 365 → year = 3 ∧ d = 1460 := by omega
  apply isValid_of_march hd3.1 hd3.2 rfl
  intro h
  obtain ⟨rfl, rfl⟩ := hy1 h
  exact isLeap_of_quad hq0 (hq1 rfl)

theorem daysInMonth_le (year : ℤ) (month : ℕ) : daysInMonth year month ≤ 31 := by
  unfold daysInMonth
  split
  · split <;> omega
  · split <;> omega

theorem bounds_of_isValid {date : Date} (h : date.isValid = true) :
    1 ≤ date.month ∧ date.month ≤ 12 ∧ 1 ≤ date.day ∧ date.day ≤ 31 := by
  simp only [isValid, Bool.and_eq_true, decide_eq_true_eq] at h
  have := daysInMonth_le date.year date.month
  omega

theorem year_ofDayNumber (n : ℤ) :
    400 * ((n + origin) / 146097) ≤ (ofDayNumber n).year ∧
      (ofDayNumber n).year ≤ 400 * ((n + origin) / 146097) + 400 := by
  have h0 : 0 ≤ (n + origin) % 146097 := Int.emod_nonneg _ (by decide)
  have h1 : (n + origin) % 146097 < 146097 := Int.emod_lt_of_pos _ (by decide)
  simp only [ofDayNumber]
  generalize (n + origin) / 146097 = era
  generalize (n + origin) % 146097 = d at *
  generalize hc : min 3 (d / 36524) = century
  have hc0 : 0 ≤ century ∧ century ≤ 3 := by omega
  have hd0 : 0 ≤ d - 36524 * century ∧ d - 36524 * century ≤ 36524 := by omega
  clear hc h0 h1
  generalize d - 36524 * century = d at *
  split
  · dsimp only
    omega
  · dsimp only
    omega

end MimeMail.Date
