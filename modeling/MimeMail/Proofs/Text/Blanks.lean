import Mathlib
import MimeMail.Text.Basic

namespace MimeMail.Text

theorem trimEnd_eq_rdropWhile (t : Text) : trimEnd t = t.rdropWhile isBlank := rfl

theorem dropWhile_eq_self {α : Type} {p : α → Bool} {l : List α} (h : ∀ a ∈ l.head?, p a = false) :
    l.dropWhile p = l := by
  cases l with
  | nil => rfl
  | cons a l => simp [h a rfl]

theorem rdropWhile_eq_self {α : Type} {p : α → Bool} {l : List α}
    (h : ∀ a ∈ l.getLast?, p a = false) : l.rdropWhile p = l := by
  apply List.rdropWhile_eq_self_iff.mpr
  intro hl
  simp [h _ (List.getLast?_eq_some_getLast hl)]

theorem head?_dropWhile {α : Type} {p : α → Bool} {l : List α} :
    ∀ a ∈ (l.dropWhile p).head?, p a = false := by
  intro a ha
  have h := List.head?_dropWhile_not p l
  rw [Option.mem_def.mp ha] at h
  simpa using h

theorem getLast?_rdropWhile {α : Type} {p : α → Bool} {l : List α} :
    ∀ a ∈ (l.rdropWhile p).getLast?, p a = false := by
  intro a ha
  rw [List.rdropWhile, List.getLast?_reverse] at ha
  exact head?_dropWhile a ha

theorem rdropWhile_append_of_all {α : Type} {p : α → Bool} {l r : List α}
    (h : ∀ a ∈ r, p a = true) : (l ++ r).rdropWhile p = l.rdropWhile p := by
  simp only [List.rdropWhile, List.reverse_append]
  rw [List.dropWhile_append_of_pos (fun a ha => h a (List.mem_reverse.mp ha))]

def IsTrimmed (t : Text) : Prop := trim t = t

instance (t : Text) : Decidable (IsTrimmed t) := inferInstanceAs (Decidable (trim t = t))

theorem isTrimmed_of_edges {t : Text} (hh : ∀ c ∈ t.head?, isBlank c = false)
    (hl : ∀ c ∈ t.getLast?, isBlank c = false) : IsTrimmed t := by
  rw [IsTrimmed, trim, trimStart, dropWhile_eq_self hh]
  exact rdropWhile_eq_self hl

theorem isTrimmed_of_no_blank {t : Text} (h : ∀ c ∈ t, isBlank c = false) : IsTrimmed t :=
  isTrimmed_of_edges (fun c hc => h c (List.mem_of_mem_head? hc))
    (fun c hc => h c (List.mem_of_getLast? hc))

theorem isBlank_of_isGraphic {c : Char} (h : isGraphic c = true) : isBlank c = false := by
  simp only [isGraphic, Bool.and_eq_true, decide_eq_true_eq] at h
  simp only [isBlank, Bool.or_eq_false_iff, Bool.and_eq_false_iff, decide_eq_false_iff_not,
    beq_eq_false_iff_ne]
  omega

theorem isTrimmed_of_isGraphic {t : Text} (h : ∀ c ∈ t, isGraphic c = true) : IsTrimmed t :=
  isTrimmed_of_no_blank fun c hc => isBlank_of_isGraphic (h c hc)

theorem head?_trim {t : Text} : ∀ c ∈ (trim t).head?, isBlank c = false := by
  intro c hc
  apply head?_dropWhile (l := t) c
  have hs : trim t <+: trimStart t := List.rdropWhile_prefix _ _
  obtain ⟨r, hr⟩ := hs
  rw [← trimStart, ← hr, List.head?_append, Option.mem_def.mp hc]
  rfl

theorem getLast?_trim {t : Text} : ∀ c ∈ (trim t).getLast?, isBlank c = false :=
  getLast?_rdropWhile

theorem isTrimmed_trim (t : Text) : IsTrimmed (trim t) :=
  isTrimmed_of_edges head?_trim getLast?_trim

theorem IsTrimmed.head {t : Text} (h : IsTrimmed t) : ∀ c ∈ t.head?, isBlank c = false := by
  rw [← h]
  exact head?_trim

theorem IsTrimmed.last {t : Text} (h : IsTrimmed t) : ∀ c ∈ t.getLast?, isBlank c = false := by
  rw [← h]
  exact getLast?_trim

theorem isInfix_trim (t : Text) : trim t <:+: t :=
  (List.rdropWhile_prefix _ _).isInfix.trans (List.dropWhile_suffix _).isInfix

theorem mem_of_mem_trim {t : Text} {c : Char} (h : c ∈ trim t) : c ∈ t := (isInfix_trim t).mem h

theorem exists_trim (t : Text) :
    ∃ a b, t = a ++ (trim t ++ b) ∧ (∀ c ∈ a, isBlank c = true) ∧ ∀ c ∈ b, isBlank c = true := by
  refine ⟨t.takeWhile isBlank, (trimStart t).rtakeWhile isBlank, ?_, ?_, ?_⟩
  · have hend : trim t ++ (trimStart t).rtakeWhile isBlank = trimStart t :=
      List.rdropWhile_append_rtakeWhile
    rw [hend]
    exact List.takeWhile_append_dropWhile.symm
  · exact fun c hc => List.mem_takeWhile_imp hc
  · exact fun c hc => List.mem_rtakeWhile_imp hc

theorem trim_cons_blank {c : Char} {t : Text} (h : isBlank c = true) : trim (c :: t) = trim t := by
  simp [trim, trimStart, h]

theorem trim_append_blank {c : Char} (t : Text) (h : isBlank c = true) :
    trim (t ++ [c]) = trim t := by
  have hc : [c].dropWhile isBlank = [] := List.dropWhile_cons_of_pos h
  rw [trim, trim, trimStart, trimStart, List.dropWhile_append]
  split
  · next he => rw [hc, List.isEmpty_iff.mp he]
  · exact rdropWhile_append_of_all (by simpa using h)

theorem trim_blanks_append {a : Text} (t : Text) (h : ∀ c ∈ a, isBlank c = true) :
    trim (a ++ t) = trim t := by
  rw [trim, trim, trimStart, trimStart, List.dropWhile_append_of_pos h]

theorem trim_append_blanks (t : Text) {b : Text} (h : ∀ c ∈ b, isBlank c = true) :
    trim (t ++ b) = trim t := by
  induction b using List.reverseRecOn with
  | nil => rw [List.append_nil]
  | append_singleton b c ih =>
    rw [List.forall_mem_append, List.forall_mem_singleton] at h
    rw [← List.append_assoc, trim_append_blank _ h.2, ih h.1]

theorem flatten_words_go (t w : Text) :
    (words.go t w).flatten = w.reverse ++ t.filter (!isBlank ·) := by
  induction t generalizing w with
  | nil => cases w <;> simp [words.go]
  | cons c t ih => cases w <;> by_cases h : isBlank c = true <;> simp [words.go, h, ih]

theorem flatten_words (t : Text) : (words t).flatten = t.filter (!isBlank ·) :=
  flatten_words_go t []

theorem isTrimmed_append {s t : Text} (hs : s ≠ []) (ht : t ≠ [])
    (hh : ∀ c ∈ s.head?, isBlank c = false) (hl : ∀ c ∈ t.getLast?, isBlank c = false) :
    IsTrimmed (s ++ t) := by
  apply isTrimmed_of_edges
  · rwa [List.head?_append_of_ne_nil _ hs]
  · rwa [List.getLast?_append_of_ne_nil _ ht]

def IsLine (t : Text) : Prop := ∀ c ∈ t, c ≠ '\r' ∧ c ≠ '\n'

instance (t : Text) : Decidable (IsLine t) :=
  inferInstanceAs (Decidable (∀ c ∈ t, c ≠ '\r' ∧ c ≠ '\n'))

@[simp] theorem isLine_nil : IsLine [] := by simp [IsLine]

@[simp] theorem isLine_cons {c : Char} {t : Text} :
    IsLine (c :: t) ↔ (c ≠ '\r' ∧ c ≠ '\n') ∧ IsLine t := by simp [IsLine]

@[simp] theorem isLine_append {s t : Text} : IsLine (s ++ t) ↔ IsLine s ∧ IsLine t := by
  simp only [IsLine, List.forall_mem_append]

theorem IsLine.of_mem {s t : Text} (ht : IsLine t) (h : ∀ c ∈ s, c ∈ t) : IsLine s :=
  fun c hc => ht c (h c hc)

theorem isLine_of_isGraphic {t : Text} (h : ∀ c ∈ t, isGraphic c = true) : IsLine t := by
  intro c hc
  have hg := h c hc
  constructor <;>
  · rintro rfl
    cases hg

theorem isLine_oneLine (t : Text) : IsLine (oneLine t) := by
  intro c hc
  obtain ⟨d, -, rfl⟩ := List.mem_map.mp hc
  split <;> simp_all

theorem oneLine_eq_self {t : Text} (h : IsLine t) : oneLine t = t := by
  conv_rhs => rw [← List.map_id t]
  apply List.map_congr_left
  intro c hc
  simp [h c hc]

theorem isBlank_oneLine (c : Char) :
    isBlank (if c == '\r' || c == '\n' then ' ' else c) = isBlank c := by
  split
  · next h =>
    rcases (by simpa using h : c = '\r' ∨ c = '\n') with rfl | rfl <;> rfl
  · rfl

theorem trim_oneLine (t : Text) : trim (oneLine t) = oneLine (trim t) := by
  have hb : isBlank ∘ (fun c => if c == '\r' || c == '\n' then ' ' else c) = isBlank :=
    funext isBlank_oneLine
  rw [trim, trimEnd, trimStart, oneLine, List.dropWhile_map, hb, ← List.map_reverse,
    List.dropWhile_map, hb, ← List.map_reverse]
  rfl

theorem IsTrimmed.oneLine {t : Text} (h : IsTrimmed t) : IsTrimmed (oneLine t) := by
  rw [IsTrimmed, trim_oneLine, h]

theorem isAscii_oneLine (t : Text) : isAscii (oneLine t) = isAscii t := by
  rw [isAscii, isAscii, oneLine, List.all_map]
  congr 1
  funext c
  by_cases h : c = '\r' ∨ c = '\n'
  · rcases h with rfl | rfl <;> rfl
  · simp_all

end MimeMail.Text
