import MimeMail.Proofs.Text.Blanks
import MimeMail.Text.Digits

namespace MimeMail.Digits

theorem toNat_of_isDigit {c : Char} (h : c.isDigit = true) : 48 ≤ c.toNat ∧ c.toNat ≤ 57 := by
  simpa [Char.isDigit, UInt32.le_iff_toNat_le] using h

theorem between_iff {a c z : Char} :
    (a ≤ c && c ≤ z) = true ↔ a.toNat ≤ c.toNat ∧ c.toNat ≤ z.toNat := by
  rw [Bool.and_eq_true, decide_eq_true_eq, decide_eq_true_eq, Char.le_def, Char.le_def,
    UInt32.le_iff_toNat_le, UInt32.le_iff_toNat_le]
  rfl

theorem value?_eq (c : Char) :
    value? c = if 48 ≤ c.toNat ∧ c.toNat ≤ 57 then some (c.toNat - 48) else none := by
  simp only [value?, between_iff]
  rfl

theorem hexValue?_eq (c : Char) :
    hexValue? c =
      if 48 ≤ c.toNat ∧ c.toNat ≤ 57 then some (c.toNat - 48)
      else if 97 ≤ c.toNat ∧ c.toNat ≤ 102 then some (c.toNat - 97 + 10)
      else if 65 ≤ c.toNat ∧ c.toNat ≤ 70 then some (c.toNat - 65 + 10)
      else none := by
  simp only [hexValue?, between_iff]
  rfl

theorem value?_of_isDigit {c : Char} (h : c.isDigit = true) : value? c = some (c.toNat - 48) := by
  rw [value?_eq, if_pos (toNat_of_isDigit h)]

theorem isDigit_of_isDigit {c : Char} (h : c.isDigit = true) : isDigit c = true := by
  rw [isDigit, value?_of_isDigit h]
  rfl

theorem isBlank_of_isDigit {c : Char} (h : c.isDigit = true) : Text.isBlank c = false := by
  have hc := toNat_of_isDigit h
  simp only [Text.isBlank, Bool.or_eq_false_iff, Bool.and_eq_false_iff, decide_eq_false_iff_not,
    beq_eq_false_iff_ne]
  omega

theorem head_cons {c : Char} {r : Text} (h : isDigit c = false) :
    ∀ d ∈ (c :: r).head?, isDigit d = false := by
  rintro d ⟨⟩
  exact h

theorem foldl_number (ds : Text) (n : ℕ) (h : ∀ c ∈ ds, c.isDigit = true) :
    (ds.filterMap value?).foldl (fun n d => n * 10 + d) n = Nat.ofDigitChars 10 ds n := by
  induction ds generalizing n with
  | nil => rfl
  | cons c ds ih =>
    have hc : '0'.toNat = 48 := rfl
    rw [List.filterMap_cons, value?_of_isDigit (h c List.mem_cons_self)]
    simp only [List.foldl_cons]
    rw [ih _ fun d hd => h d (List.mem_cons_of_mem _ hd), Nat.ofDigitChars_cons, Nat.mul_comm, hc]

theorem number_eq (ds : Text) (h : ∀ c ∈ ds, c.isDigit = true) :
    number 10 (ds.filterMap value?) = Nat.ofDigitChars 10 ds 0 := foldl_number ds 0 h

theorem isDigit_ofNat (n : ℕ) : ∀ c ∈ ofNat n, c.isDigit = true :=
  fun _ hc => Nat.isDigit_of_mem_toDigits (by decide) (by decide) hc

theorem ofNat_ne_nil (n : ℕ) : ofNat n ≠ [] := Nat.toDigits_ne_nil

theorem isDigit_padded (width n : ℕ) : ∀ c ∈ padded width n, c.isDigit = true := by
  intro c hc
  rcases List.mem_append.mp hc with hc | hc
  · rw [List.eq_of_mem_replicate hc]
    decide
  · exact isDigit_ofNat n c hc

theorem isLine_of_isDigit {ds : Text} (h : ∀ c ∈ ds, c.isDigit = true) : Text.IsLine ds := by
  intro c hc
  constructor <;>
  · rintro rfl
    exact absurd (h _ hc) (by decide)

theorem ofDigitChars_padded (width n : ℕ) : Nat.ofDigitChars 10 (padded width n) 0 = n := by
  have hz (k : ℕ) : Nat.ofDigitChars 10 (List.replicate k '0') 0 = 0 := by
    induction k with
    | zero => rfl
    | succ k ih =>
      rw [List.replicate_succ, Nat.ofDigitChars_cons]
      exact ih
  rw [padded, Text.padLeft, Nat.ofDigitChars_append, hz]
  exact Nat.ofDigitChars_ten_toDigits

theorem ofDigitChars_ofNat (n : ℕ) : Nat.ofDigitChars 10 (ofNat n) 0 = n :=
  Nat.ofDigitChars_ten_toDigits

theorem length_padded {width n : ℕ} (hw : 0 < width) (h : n < 10 ^ width) :
    (padded width n).length = width := by
  have hl : (ofNat n).length ≤ width := (Nat.length_toDigits_le_iff (by decide) hw).mpr h
  rw [padded, Text.padLeft, List.length_append, List.length_replicate]
  omega

theorem padded_ne_nil (width n : ℕ) : padded width n ≠ [] :=
  List.append_ne_nil_of_right_ne_nil _ (ofNat_ne_nil n)

theorem isBlank_head_padded (width n : ℕ) (r : Text) :
    ∀ c ∈ (padded width n ++ r).head?, Text.isBlank c = false := by
  intro c hc
  rw [List.head?_append_of_ne_nil _ (padded_ne_nil width n)] at hc
  exact isBlank_of_isDigit (isDigit_padded width n c (List.mem_of_head? hc))

theorem read?_append {ds : Text} (r : Text) {least most : ℕ} (h : ∀ c ∈ ds, c.isDigit = true)
    (hl : least ≤ ds.length) (hm : ds.length ≤ most)
    (hr : ds.length = most ∨ ∀ c ∈ r.head?, isDigit c = false) :
    read? least most (ds ++ r) = some (Nat.ofDigitChars 10 ds 0, r) := by
  have ht : ((ds ++ r).take most).takeWhile isDigit = ds := by
    rw [List.take_append, List.take_of_length_le hm,
      List.takeWhile_append_of_pos fun c hc => isDigit_of_isDigit (h c hc)]
    rcases hr with rfl | hr
    · simp
    · cases r with
      | nil => simp
      | cons c r =>
        have hc := hr c rfl
        cases most - ds.length <;> simp [hc]
  rw [read?]
  simp only [ht]
  rw [if_neg (by omega), number_eq ds h, List.drop_left]

theorem read?_padded {least width n : ℕ} (r : Text) (hl : least ≤ width) (hw : 0 < width)
    (hn : n < 10 ^ width) : read? least width (padded width n ++ r) = some (n, r) := by
  have hlength := length_padded hw hn
  rw [read?_append r (isDigit_padded width n) (by omega) (by omega) (.inl hlength),
    ofDigitChars_padded]

theorem value?_le {c : Char} {d : ℕ} (h : value? c = some d) : d ≤ 9 := by
  rw [value?_eq] at h
  split at h
  · cases h
    omega
  · cases h

theorem number_lt {ds : List ℕ} (h : ∀ d ∈ ds, d ≤ 9) : number 10 ds < 10 ^ ds.length := by
  induction ds using List.reverseRecOn with
  | nil => decide
  | append_singleton ds d ih =>
    have hd := h d (by simp)
    have hi := ih fun e he => h e (by simp [he])
    rw [number, List.foldl_append, List.length_append, List.length_singleton, pow_succ]
    rw [number] at hi
    simp only [List.foldl_cons, List.foldl_nil]
    omega

theorem lt_of_read {least most n : ℕ} {t rest : Text} (h : read? least most t = some (n, rest)) :
    n < 10 ^ (t.length - rest.length) ∧ t.length - rest.length ≤ most := by
  rw [read?] at h
  split at h
  · cases h
  · cases h
    have hle : ((t.take most).takeWhile isDigit).length ≤ (t.take most).length :=
      (List.takeWhile_prefix _).length_le
    have hmin : (t.take most).length = min most t.length := List.length_take
    have hdrop : t.length - (t.drop ((t.take most).takeWhile isDigit).length).length =
        ((t.take most).takeWhile isDigit).length := by
      rw [List.length_drop]
      omega
    rw [hdrop]
    refine ⟨?_, by omega⟩
    generalize (t.take most).takeWhile isDigit = digits
    have hvalues : ∀ d ∈ digits.filterMap value?, d ≤ 9 := by
      intro d hd
      obtain ⟨c, -, hc⟩ := List.mem_filterMap.mp hd
      exact value?_le hc
    exact (number_lt hvalues).trans_le
      (Nat.pow_le_pow_right (by decide) (List.length_filterMap_le _ _))

theorem exists_of_read {least most n : ℕ} {t rest : Text}
    (h : read? least most t = some (n, rest)) :
    ∃ ds, t = ds ++ rest ∧ (∀ c ∈ ds, isDigit c = true) ∧ least ≤ ds.length := by
  rw [read?] at h
  split at h
  · cases h
  · next hl =>
    cases h
    have hprefix : (t.take most).takeWhile isDigit <+: t :=
      (List.takeWhile_prefix _).trans (List.take_prefix _ _)
    exact ⟨_, (List.prefix_iff_eq_append.mp hprefix).symm, fun _ hc => List.mem_takeWhile_imp hc,
      not_lt.mp hl⟩

theorem read?_suffix {least most n : ℕ} {t rest : Text} (h : read? least most t = some (n, rest)) :
    rest <:+ t := by
  obtain ⟨ds, rfl, -⟩ := exists_of_read h
  exact List.suffix_append ds rest

theorem read?_eq_none {least most : ℕ} {t : Text} (hl : 0 < least)
    (h : ∀ c ∈ t.head?, isDigit c = false) : read? least most t = none := by
  have ht : (t.take most).takeWhile isDigit = [] := by
    cases t with
    | nil => simp
    | cons c t =>
      have hc := h c rfl
      cases most <;> simp [hc]
  rw [read?]
  simp only [ht]
  rw [if_pos (by simpa using hl)]

theorem take_append {ds : Text} (r : Text) (h : ∀ c ∈ ds, c.isDigit = true)
    (hr : ∀ c ∈ r.head?, isDigit c = false) : take (ds ++ r) = (Nat.ofDigitChars 10 ds 0, r) := by
  have hd : ∀ c ∈ ds, isDigit c = true := fun c hc => isDigit_of_isDigit (h c hc)
  have ht : r.takeWhile isDigit = [] := by
    cases r with
    | nil => rfl
    | cons c r => simp [hr c rfl]
  rw [take, List.takeWhile_append_of_pos hd, List.dropWhile_append_of_pos hd,
    Text.dropWhile_eq_self hr, ht, List.append_nil, number_eq ds h]

theorem takeSign_eq_self {t : Text} (h : ∀ c ∈ t.head?, c.isDigit = true) :
    takeSign t = (false, t) := by
  unfold takeSign
  split
  · exact absurd (h '-' rfl) (by decide)
  · exact absurd (h '+' rfl) (by decide)
  · rfl

theorem signed?_eq (negative : Bool) (size : ℕ) :
    signed? negative size =
      let n : ℤ := if negative then -size else size
      if -2 ^ 63 ≤ n ∧ n < 2 ^ 63 then some n else none := by
  simp [signed?]

theorem head?_ofNat {n : ℕ} (h : n ≠ 0) : (ofNat n).head? ≠ some '0' := by
  induction n using Nat.strong_induction_on with
  | _ n ih =>
    rcases lt_or_ge n 10 with hn | hn
    · rw [ofNat, Nat.toDigits_of_lt_base hn]
      interval_cases n <;> first | exact absurd rfl h | decide
    · rw [ofNat, Nat.toDigits_of_base_le (by decide) hn,
        List.head?_append_of_ne_nil _ Nat.toDigits_ne_nil]
      exact ih (n / 10) (Nat.div_lt_self (by omega) (by decide)) (by omega)

theorem exists_cons_ofNat (n : ℕ) :
    ∃ c ds, ofNat n = c :: ds ∧ c.isDigit = true ∧ (c = '0' → ds = []) := by
  obtain ⟨c, ds, h⟩ := List.exists_cons_of_ne_nil (ofNat_ne_nil n)
  refine ⟨c, ds, h, isDigit_ofNat n c (by simp [h]), ?_⟩
  rintro rfl
  obtain rfl : n = 0 := by
    by_contra hn
    exact head?_ofNat hn (by simp [h])
  exact (List.cons.inj h).2.symm

end MimeMail.Digits
