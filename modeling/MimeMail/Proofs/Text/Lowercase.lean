import MimeMail.Header.MediaType
import MimeMail.Proofs.Text.Blanks

namespace MimeMail.Text

theorem isUpper_eq_false_iff {c : Char} : c.isUpper = false ↔ c.toNat < 65 ∨ 90 < c.toNat := by
  rw [← Bool.not_eq_true]
  simp only [Char.isUpper, UInt32.le_iff_toNat_le, ge_iff_le, decide_eq_true_eq]
  change ¬ (65 ≤ c.toNat ∧ c.toNat ≤ 90) ↔ _
  omega

theorem isUpper_of_isBlank {c : Char} (h : isBlank c = true) : c.isUpper = false := by
  simp only [isBlank, Bool.or_eq_true, Bool.and_eq_true, decide_eq_true_eq, beq_iff_eq] at h
  rw [isUpper_eq_false_iff]
  omega

theorem isUpper_ofNat {n : ℕ} (h : 90 < n) : (Char.ofNat n).isUpper = false := by
  rw [isUpper_eq_false_iff, Char.toNat_ofNat]
  split <;> omega

theorem runs_past_capitals : ∀ run ∈ CaseData.runs, 90 < (run.first : ℤ) + run.shift := by
  decide +kernel

theorem isUpper_lowerChar (c : Char) : ∀ d ∈ lowerChar c, d.isUpper = false := by
  intro d hd
  unfold lowerChar at hd
  split at hd
  · rw [List.mem_singleton.mp hd]
    exact Char.isUpper_toLower_eq_false c
  · split at hd
    · rcases (by simpa using hd : d = 'i' ∨ d = '\u0307') with rfl | rfl <;> decide
    · split at hd
      · next run hr =>
        have hp := runs_past_capitals run (List.mem_of_find?_eq_some hr)
        have hc := List.find?_some hr
        simp only [CaseData.Run.covers, Bool.and_eq_true, decide_eq_true_eq] at hc
        rw [List.mem_singleton.mp hd]
        apply isUpper_ofNat
        omega
      · rw [List.mem_singleton.mp hd, isUpper_eq_false_iff]
        omega

theorem isUpper_go (before t : Text) : ∀ c ∈ lowercase.go before t, c.isUpper = false := by
  induction t generalizing before with
  | nil => simp [lowercase.go]
  | cons c t ih =>
    intro d hd
    unfold lowercase.go at hd
    split at hd
    · rcases List.mem_cons.mp hd with rfl | hd
      · split <;> decide
      · exact ih _ d hd
    · rcases List.mem_append.mp hd with hd | hd
      · exact isUpper_lowerChar c d hd
      · exact ih _ d hd

theorem isUpper_lowercase (t : Text) : ∀ c ∈ lowercase t, c.isUpper = false := isUpper_go [] t

theorem mem_go_of_lt (before : Text) {t : Text} {c : Char} (hc : c ∈ t) (hlt : c.toNat < 128) :
    c.toLower ∈ lowercase.go before t := by
  induction t generalizing before with
  | nil => cases hc
  | cons d t ih =>
    rw [lowercase.go]
    rcases List.mem_cons.mp hc with rfl | hc
    · have hne : c ≠ 'Σ' := by
        rintro rfl
        exact absurd hlt (by decide)
      rw [if_neg (by simpa using hne), lowerChar, if_pos hlt]
      exact List.mem_cons_self
    · split
      · exact List.mem_cons_of_mem _ (ih _ hc)
      · exact List.mem_append_right _ (ih _ hc)

theorem mem_lowercase_of_lt {t : Text} {c : Char} (hc : c ∈ t) (hlt : c.toNat < 128) :
    c.toLower ∈ lowercase t := mem_go_of_lt [] hc hlt

theorem go_eq_map (before : Text) {t : Text} (ha : ∀ c ∈ t, c.toNat < 128) :
    lowercase.go before t = t.map Char.toLower := by
  induction t generalizing before with
  | nil => rfl
  | cons c t ih =>
    have hc := ha c List.mem_cons_self
    have hs : (c == 'Σ') = false := by
      rw [beq_eq_false_iff_ne]
      rintro rfl
      revert hc
      decide
    have hl : lowerChar c = [c.toLower] := by
      rw [lowerChar, if_pos hc]
    rw [lowercase.go, if_neg (by simp [hs]), hl, ih _ fun d hd => ha d (List.mem_cons_of_mem _ hd)]
    rfl

theorem lowercase_eq_map {t : Text} (ha : ∀ c ∈ t, c.toNat < 128) :
    lowercase t = t.map Char.toLower := go_eq_map [] ha

theorem map_toLower_eq_self {t : Text} (hu : ∀ c ∈ t, c.isUpper = false) :
    t.map Char.toLower = t := by
  conv_rhs => rw [← List.map_id t]
  apply List.map_congr_left
  intro c hc
  exact Char.toLower_eq_of_not_isUpper (by simp [hu c hc])

theorem lowercase_eq_self {t : Text} (ha : ∀ c ∈ t, c.toNat < 128)
    (hu : ∀ c ∈ t, c.isUpper = false) : lowercase t = t := by
  rw [lowercase_eq_map ha, map_toLower_eq_self hu]

theorem same_map_toLower (s t : Text) : same (s.map Char.toLower) t = same s t := by
  rw [same, same, map_toLower_eq_self]
  intro c hc
  obtain ⟨d, -, rfl⟩ := List.mem_map.mp hc
  exact Char.isUpper_toLower_eq_false d

theorem isBlank_head_of_same {s t : Text} (h : same s t = true)
    (hs : ∀ c ∈ s.head?, isBlank c.toLower = false) : ∀ c ∈ t.head?, isBlank c = false := by
  intro c hc
  have hheads := congrArg List.head? (beq_iff_eq.mp h)
  rw [List.head?_map, List.head?_map, Option.mem_def.mp hc, Option.map_some] at hheads
  obtain ⟨d, hd, hdc⟩ := Option.map_eq_some_iff.mp hheads
  have hlower := hs d hd
  rw [hdc] at hlower
  by_contra hb
  rw [Bool.not_eq_false] at hb
  rw [Char.toLower_eq_of_not_isUpper (by simp [isUpper_of_isBlank hb]), hb] at hlower
  cases hlower

end MimeMail.Text
