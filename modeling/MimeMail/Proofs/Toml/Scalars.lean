import Mathlib
import MimeMail.Proofs.Text.Digits
import MimeMail.Toml.Scalar

namespace MimeMail.Toml.Scalar

open Digits (isDigit ofNat)

theorem digits?_append {ds : Text} (hn : ds ≠ []) (hd : ∀ c ∈ ds, c.isDigit = true) (r : Text) :
    digits? Digits.value? (ds ++ '\n' :: r) = some (ds.filterMap Digits.value?, '\n' :: r) := by
  induction ds with
  | nil => exact absurd rfl hn
  | cons c ds ih =>
    obtain ⟨hc, hd⟩ := List.forall_mem_cons.1 hd
    have hv := Digits.value?_of_isDigit hc
    cases ds with
    | nil =>
      have hnone : Digits.value? '\n' = none := rfl
      simp [digits?, hv, hnone]
    | cons e ds =>
      have he := hd e List.mem_cons_self
      have hu : e ≠ '_' := by
        rintro rfl
        exact absurd he (by decide)
      have hsome : (Digits.value? e).isSome = true := Digits.isDigit_of_isDigit he
      have hrest := ih (List.cons_ne_nil e ds) hd
      rw [List.cons_append] at hrest
      rw [List.cons_append, List.cons_append, digits?.eq_def]
      simp only [hv, hsome, hrest, if_true]
      simp [hv]

theorem isDigit_head_ofNat (n : ℕ) (r : Text) : ∀ c ∈ (ofNat n ++ r).head?, c.isDigit = true := by
  intro c hc
  rw [List.head?_append_of_ne_nil _ (Digits.ofNat_ne_nil n)] at hc
  exact Digits.isDigit_ofNat n c (List.mem_of_mem_head? hc)

theorem whole?_ofNat (n : ℕ) (r : Text) :
    whole? (ofNat n ++ '\n' :: r) = some (false, (ofNat n).filterMap Digits.value?, '\n' :: r) := by
  obtain ⟨c, ds, h, hc, hzero⟩ := Digits.exists_cons_ofNat n
  have hread := digits?_append (Digits.ofNat_ne_nil n) (Digits.isDigit_ofNat n) r
  rw [whole?, Digits.takeSign_eq_self (isDigit_head_ofNat n _), h, List.cons_append]
  dsimp only
  split
  · next h0 =>
    obtain ⟨rfl, rfl⟩ := List.cons.inj h0
    obtain rfl := hzero rfl
    rfl
  · rw [← List.cons_append, ← h, hread]
    rfl

theorem ofParts?_ofNat {n : ℕ} (hn : n < 2 ^ 63) :
    ofParts? 10 false ((ofNat n).filterMap Digits.value?) = some (.integer n) := by
  have hrange : -2 ^ 63 ≤ (n : ℤ) ∧ (n : ℤ) < 2 ^ 63 := ⟨by omega, by omega⟩
  rw [ofParts?.eq_def, Digits.number_eq _ (Digits.isDigit_ofNat n), Digits.ofDigitChars_ofNat,
    Digits.signed?_eq]
  simp only [Bool.false_eq_true, if_false, if_pos hrange, Option.map_some]

theorem integer?_ofNat {n : ℕ} (hn : n < 2 ^ 63) (r : Text) :
    integer? (ofNat n ++ '\n' :: r) = some (.integer n, '\n' :: r) := by
  obtain ⟨c, ds, h, -, hzero⟩ := Digits.exists_cons_ofNat n
  rw [integer?.eq_def]
  split
  case h_4 =>
    rw [whole?_ofNat, Option.bind_some]
    dsimp only
    rw [ofParts?_ofNat hn]
    rfl
  all_goals
    next h0 =>
    rw [h] at h0
    obtain ⟨rfl, hr⟩ := List.cons.inj h0
    obtain rfl := hzero rfl
    simp at hr

theorem decimal?_ofNat (n : ℕ) (r : Text) : decimal? (ofNat n ++ '\n' :: r) = none := by
  rw [decimal?, whole?_ofNat]
  rfl

theorem dropStart?_read? {ds : Text} (hd : ∀ c ∈ ds, c.isDigit = true) {m : Char}
    (hm : isDigit m = false) (hn : m ≠ '\n') {least most year : ℕ} {r rest : Text}
    (h : Digits.read? least most (ds ++ '\n' :: r) = some (year, rest)) :
    dropStart? [m] rest = none := by
  obtain ⟨p, hp, hdigit, -⟩ := Digits.exists_of_read h
  by_contra hne
  obtain ⟨s, hs⟩ := Option.ne_none_iff_exists'.1 hne
  rw [dropStart?_eq_some_iff] at hs
  have hn' : isDigit '\n' = false := rfl
  have hdrop := congrArg (List.dropWhile isDigit) hp
  rw [hs, List.dropWhile_append_of_pos fun c hc => Digits.isDigit_of_isDigit (hd c hc),
    List.dropWhile_append_of_pos hdigit, List.dropWhile_cons_of_neg (by simp [hn'])] at hdrop
  simp only [List.cons_append, List.dropWhile_cons, hm] at hdrop
  exact hn (List.cons.inj hdrop).1.symm

theorem dateTime?_digits {ds : Text} (hd : ∀ c ∈ ds, c.isDigit = true) (r : Text) :
    dateTime? (ds ++ '\n' :: r) = none := by
  have hdate : date? (ds ++ '\n' :: r) = none := by
    rw [date?]
    cases h : Digits.read? 4 4 (ds ++ '\n' :: r) with
    | none => rfl
    | some p =>
      have hsign := dropStart?_read? hd (m := '-') rfl (by decide) h
      simp [hsign]
  rw [dateTime?, hdate]
  rfl

theorem time?_digits {ds : Text} (hd : ∀ c ∈ ds, c.isDigit = true) (r : Text) :
    time? (ds ++ '\n' :: r) = none := by
  rw [time?]
  cases h : pair? 0 23 (ds ++ '\n' :: r) with
  | none => rfl
  | some p =>
    have hsign := dropStart?_read? hd (m := ':') rfl (by decide) (Option.filter_eq_some_iff.1 h).1
    simp [hsign]

theorem read?_ofNat {n : ℕ} (h : n < 2 ^ 63) (r : Text) :
    read? (ofNat n ++ '\n' :: r) = some (.integer n, '\n' :: r) := by
  have hd := Digits.isDigit_ofNat n
  obtain ⟨c, ds, hds, hc, -⟩ := Digits.exists_cons_ofNat n
  have hspecial : special? (ofNat n ++ '\n' :: r) = none := by
    have hi : c ≠ 'i' ∧ c ≠ 'n' := by
      constructor <;>
      · rintro rfl
        exact absurd hc (by decide)
    rw [special?, Digits.takeSign_eq_self (isDigit_head_ofNat n _), hds]
    simp [dropStart?, hi.1.symm, hi.2.symm]
  rw [read?, dateTime?_digits hd, time?_digits hd, decimal?_ofNat, hspecial, integer?_ofNat h]
  rfl

end MimeMail.Toml.Scalar
