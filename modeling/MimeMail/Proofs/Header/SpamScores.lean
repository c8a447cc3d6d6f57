import MimeMail.Header.SpamScore
import MimeMail.Proofs.Text.Digits

namespace MimeMail.Text

theorem head?_words_go {w rest : Text} (v : Text) (hn : v.reverse ++ w ≠ [])
    (hw : ∀ c ∈ w, isBlank c = false) (hr : ∀ c ∈ rest.head?, isBlank c = true) :
    (words.go (w ++ rest) v).head? = some (v.reverse ++ w) := by
  induction w generalizing v with
  | nil =>
    have hv : v.isEmpty = false := by simpa using hn
    cases rest with
    | nil => simp [words.go, hv]
    | cons c rest => simp [words.go, hv, hr c rfl]
  | cons c w ih =>
    rw [List.forall_mem_cons] at hw
    rw [List.cons_append, words.go, hw.1, if_neg (by simp), ih (c :: v) (by simp) hw.2]
    simp

theorem head?_words_append {w rest : Text} (hn : w ≠ []) (hw : ∀ c ∈ w, isBlank c = false)
    (hr : ∀ c ∈ rest.head?, isBlank c = true) : (words (w ++ rest)).head? = some w :=
  head?_words_go [] hn hw hr

end MimeMail.Text

namespace MimeMail.Digits

def decimal (width : ℕ) (n : ℤ) : Text :=
  if n < 0 then '-' :: padded width n.natAbs else padded width n.natAbs

theorem decimal_ne_nil (width : ℕ) (n : ℤ) : decimal width n ≠ [] := by
  rw [decimal]
  split
  · exact List.cons_ne_nil _ _
  · exact padded_ne_nil width _

theorem isBlank_of_mem_decimal {width : ℕ} {n : ℤ} :
    ∀ c ∈ decimal width n, Text.isBlank c = false := by
  have hdigits : ∀ c ∈ padded width n.natAbs, Text.isBlank c = false :=
    fun c hc => isBlank_of_isDigit (isDigit_padded width _ c hc)
  rw [decimal]
  split
  · exact List.forall_mem_cons.mpr ⟨by decide, hdigits⟩
  · exact hdigits

end MimeMail.Digits

namespace MimeMail.SpamScore

open Digits (decimal padded)

theorem number?_digits {negative : Bool} {t ds : Text} (ht : Digits.takeSign t = (negative, ds))
    (hn : ds ≠ []) (hd : ∀ c ∈ ds, c.isDigit = true) :
    number? t = Digits.signed? negative (Nat.ofDigitChars 10 ds 0) := by
  have hall : ds.all Digits.isDigit = true := by
    rw [List.all_eq_true]
    exact fun c hc => Digits.isDigit_of_isDigit (hd c hc)
  have htake := Digits.take_append [] hd (by simp)
  rw [List.append_nil] at htake
  have hempty : ds.isEmpty = false := by simpa using hn
  rw [number?, ht]
  dsimp only
  rw [hempty, hall, if_neg (by simp), htake]

theorem number?_decimal (width : ℕ) (n : ℤ) :
    number? (decimal width n) = if -2 ^ 63 ≤ n ∧ n < 2 ^ 63 then some n else none := by
  have hd := Digits.isDigit_padded width n.natAbs
  have hn := Digits.padded_ne_nil width n.natAbs
  rw [decimal]
  split
  · have habs : -(n.natAbs : ℤ) = n := by omega
    have hsign : Digits.takeSign ('-' :: padded width n.natAbs) = (true, padded width n.natAbs) := rfl
    rw [number?_digits hsign hn hd, Digits.ofDigitChars_padded, Digits.signed?_eq]
    simp only [if_true, habs]
  · have habs : (n.natAbs : ℤ) = n := by omega
    have hsign := Digits.takeSign_eq_self fun c hc => hd c (List.mem_of_mem_head? hc)
    rw [number?_digits hsign hn hd, Digits.ofDigitChars_padded, Digits.signed?_eq]
    simp only [Bool.false_eq_true, if_false, habs]

theorem leading_append {w rest : Text} (hn : w ≠ []) (hw : ∀ c ∈ w, Text.isBlank c = false)
    (hr : ∀ c ∈ rest.head?, Text.isBlank c = true) :
    leading (w ++ rest) = ((number? w).map fun n => min n.toNat top).getD 0 := by
  rw [leading, Text.head?_words_append hn hw hr, Option.bind_some]
  cases number? w <;> rfl

theorem leading_decimal (width : ℕ) (n : ℤ) (rest : Text)
    (hr : ∀ c ∈ rest.head?, Text.isBlank c = true) :
    leading (decimal width n ++ rest) = if n < 2 ^ 63 then min n.toNat top else 0 := by
  rw [leading_append (Digits.decimal_ne_nil width n) Digits.isBlank_of_mem_decimal hr, number?_decimal]
  by_cases hlow : -2 ^ 63 ≤ n
  · simp only [hlow, true_and]
    split <;> rfl
  · -- A number below the range of 64 bits cannot be read, but its score would be 0 as well.
    have hzero : n.toNat = 0 := by omega
    rw [if_neg (fun h => hlow h.1), hzero, Nat.zero_min, ite_self]
    rfl

theorem leading_ofNat {n : ℕ} (h : n ≤ top) : leading (Digits.ofNat n) = n := by
  have hdecimal : decimal 0 n = Digits.ofNat n := by simp [decimal, padded, Text.padLeft]
  have hscore := leading_decimal 0 n [] (by simp)
  have htop : top = 4294967295 := rfl
  rw [List.append_nil, hdecimal, if_pos (by omega), Int.toNat_natCast, Nat.min_eq_left h] at hscore
  exact hscore

theorem leading_le_ofFields {fields : FieldMap} {value : Text}
    (h : fields.first? fieldName = some value) : leading value ≤ ofFields fields := by
  rw [ofFields]
  dsimp only
  rw [h]
  exact Nat.le_max_left _ _

theorem ofFields_le_top (fields : FieldMap) : ofFields fields ≤ top := by
  have hleading (t : Text) : leading t ≤ top := by
    unfold leading
    split
    · exact Nat.min_le_right _ _
    · exact Nat.zero_le _
  have hstars (t : Text) : stars t ≤ top := Nat.le_of_lt_succ (Nat.mod_lt _ (Nat.succ_pos _))
  have hscore (name : Text) {read : Text → ℕ} (hr : ∀ t, read t ≤ top) :
      ((fields.first? name).map read).getD 0 ≤ top := by
    cases fields.first? name with
    | none => exact Nat.zero_le _
    | some v => exact hr v
  exact Nat.max_le.mpr ⟨hscore _ hleading, Nat.max_le.mpr ⟨hscore _ hleading, hscore _ hstars⟩⟩

theorem leading_eq_clamp_iff (width : ℕ) (n : ℤ) (rest : Text)
    (hr : ∀ c ∈ rest.head?, Text.isBlank c = true) :
    let value := decimal width n ++ rest
    (leading value = min n.toNat top ↔ n < 2 ^ 63) ∧ (2 ^ 63 ≤ n → leading value = 0) ∧
      (n < 2 ^ 63 → ∀ k m r, (∀ c ∈ r.head?, Text.isBlank c = true) → m ≤ n →
        leading (decimal k m ++ r) ≤ leading value) ∧
      ∀ fields : FieldMap, fields.first? fieldName = some value →
        leading value ≤ ofFields fields := by
  intro value
  have hscore : leading value = if n < 2 ^ 63 then min n.toNat top else 0 :=
    leading_decimal width n rest hr
  have htop : top = 4294967295 := rfl
  refine ⟨?_, ?_, ?_, fun fields => leading_le_ofFields⟩
  · rw [hscore]
    split <;> omega
  · intro hn
    rw [hscore, if_neg (by omega)]
  · intro hn k m r hblank hm
    rw [hscore, if_pos hn, leading_decimal k m r hblank, if_pos (by omega)]
    have := Int.toNat_le_toNat hm
    omega

theorem leading_eq_clamp_iff_padded :
    (∀ c ∈ " (x)".toList.head?, Text.isBlank c = true) ∧ (5000000000 : ℤ) < 2 ^ 63 ∧
      leading (decimal 12 5000000000 ++ " (x)".toList) = top := by
  have hr : ∀ c ∈ " (x)".toList.head?, Text.isBlank c = true := by
    rintro c ⟨⟩
    decide
  have hn : (5000000000 : ℤ) < 2 ^ 63 := by decide
  have hclamp := (leading_eq_clamp_iff 12 5000000000 " (x)".toList hr).1.mpr hn
  have htop : min (5000000000 : ℤ).toNat top = top := by decide
  exact ⟨hr, hn, hclamp.trans htop⟩

theorem score_lost :
    leading (decimal 0 (2 ^ 63)) ≠ min (2 ^ 63 : ℤ).toNat top ∧
      leading (decimal 0 (2 ^ 63)) < leading (decimal 0 (2 ^ 63 - 1)) := by
  decide +kernel

end MimeMail.SpamScore
