import MimeMail.Command.Report
import MimeMail.Proofs.Date.HeaderText

namespace MimeMail

namespace Widths

/-- Dots and spaces after a text take a column each. -/
structure IsSpaced (w : Widths) : Prop where
  dot : ∀ t, w.text (t ++ ['.']) = w.text t + 1
  space : ∀ t, w.text (t ++ [' ']) = w.text t + 1

def chars (w : Widths) (t : Text) : ℕ := (t.map w.char).sum

variable {w : Widths} {columns : ℕ} {t : Text}

theorem chars_cons (c : Char) (t : Text) : w.chars (c :: t) = w.char c + w.chars t := rfl

theorem prefix_fitting_iff (h : dots.length ≤ columns) {start : Text} :
    start <+: w.fitting columns t ↔ start <+: t ∧ w.chars start + dots.length ≤ columns := by
  induction t generalizing columns start with
  | nil =>
    rw [fitting, List.prefix_nil]
    constructor
    · rintro rfl
      exact ⟨rfl, by simpa [chars] using h⟩
    · exact fun hs => hs.1
  | cons c t ih =>
    cases start with
    | nil => simpa [chars] using h
    | cons d start =>
      rw [fitting, chars_cons]
      split
      · next hc =>
        have hroom : dots.length ≤ columns - w.char c := by omega
        rw [List.cons_prefix_cons, List.cons_prefix_cons, ih hroom]
        constructor
        · rintro ⟨rfl, hs, hlen⟩
          exact ⟨⟨rfl, hs⟩, by omega⟩
        · rintro ⟨⟨rfl, hs⟩, hlen⟩
          exact ⟨rfl, hs, by omega⟩
      · next hc =>
        constructor
        · intro hs
          simp at hs
        · rintro ⟨hs, hlen⟩
          obtain ⟨rfl, -⟩ := List.cons_prefix_cons.mp hs
          omega

theorem truncate_of_le (h : w.text t ≤ columns) : w.truncate columns t = t := if_pos h

theorem truncate_of_lt (h : columns < w.text t) :
    w.truncate columns t = w.fitting columns t ++ dots := if_neg (by omega)

namespace IsSpaced

variable (hw : w.IsSpaced)

include hw

theorem text_dots (t : Text) : w.text (t ++ dots) = w.text t + dots.length := by
  have h : t ++ dots = t ++ ['.'] ++ ['.'] ++ ['.'] := by simp [dots]
  rw [h, hw.dot, hw.dot, hw.dot]
  rfl

theorem text_spaces (t : Text) (n : ℕ) : w.text (t ++ List.replicate n ' ') = w.text t + n := by
  induction n with
  | zero => simp
  | succ n ih =>
    rw [List.replicate_succ', ← List.append_assoc, hw.space, ih]
    rfl

theorem text_fill (columns : ℕ) (t : Text) :
    w.text (w.fill columns t) = max columns (w.text t) := by
  rw [fill, hw.text_spaces]
  omega

theorem truncate_le_iff :
    w.text (w.truncate columns t) ≤ columns ↔
      w.text t ≤ columns ∨ w.text (w.fitting columns t) + dots.length ≤ columns := by
  by_cases h : w.text t ≤ columns
  · rw [truncate_of_le h]
    simp [h]
  · rw [truncate_of_lt (by omega), hw.text_dots]
    simp [h]

end IsSpaced

theorem foldr_extend (t : Text) (columns : ℕ) (next : Text.Joint) :
    t.foldr Text.extend (columns, next) =
      ((t.foldr Text.extend (0, next)).1 + columns, (t.foldr Text.extend (0, next)).2) := by
  induction t with
  | nil => simp
  | cons c t ih =>
    rw [List.foldr_cons, List.foldr_cons, ih]
    simp only [Text.extend, Prod.mk.injEq, and_true]
    omega

theorem width_append_char {c : Char} (hc : Text.charWidth? c = some 1)
    (hj : Text.jointOf c = .none) (t : Text) : Text.width (t ++ [c]) = Text.width t + 1 := by
  have hstep : Text.extend c (0, .none) = (1, .none) := by
    simp [Text.extend, Text.joined?, hc, hj]
  rw [Text.width, List.foldr_append, List.foldr_cons, List.foldr_nil, hstep, foldr_extend]
  rfl

theorem isSpaced_terminal : terminal.IsSpaced where
  dot := width_append_char rfl rfl
  space := width_append_char rfl rfl

end Widths

theorem Text.isLine_spaces (n : ℕ) : Text.IsLine (List.replicate n ' ') := by
  intro c hc
  rw [List.eq_of_mem_replicate hc]
  decide

theorem Instant.isLine_minuteText (x : Instant) : Text.IsLine x.minuteText := by
  have hd (n : ℕ) : Text.IsLine (Digits.padded 2 n) :=
    Digits.isLine_of_isDigit (Digits.isDigit_padded 2 n)
  rw [minuteText, dateText]
  simp [hd, isLine_yearText]

theorem Text.isLine_ofSize (bytes : ℕ) : Text.IsLine (Text.ofSize bytes) := by
  have hn (n : ℕ) : Text.IsLine (Digits.ofNat n) := Digits.isLine_of_isDigit (Digits.isDigit_ofNat n)
  have hp (n : ℕ) : Text.IsLine (Digits.padded 2 n) :=
    Digits.isLine_of_isDigit (Digits.isDigit_padded 2 n)
  have hunit : Text.IsLine (sizeUnits.getD (sizeUnit bytes) "").toList := by
    have hi : sizeUnit bytes < 7 := Nat.lt_succ_of_le (Nat.min_le_right _ _)
    generalize sizeUnit bytes = i at hi
    interval_cases i <;> simp [sizeUnits]
  rw [ofSize]
  dsimp only
  split <;> simp only [isLine_append, isLine_cons, hn, hp, hunit] <;> decide

namespace Report

variable {w : Widths} {columns : ℕ} {t : Text}

theorem isLine_cell :
    Text.IsLine (cell w columns t) ↔ Text.IsLine (w.truncate (columns - 1) t) := by
  simp [cell, Widths.fill, Text.isLine_spaces]

theorem text_cell (hw : w.IsSpaced) :
    w.text (cell w columns t) = max columns (w.text (w.truncate (columns - 1) t)) :=
  hw.text_fill _ _

theorem isLine_dateText (h : Header) : Text.IsLine (dateText h) := by
  rw [dateText]
  split
  · simp
  · exact h.date.isLine_minuteText

theorem row_isLine_iff (h : Header) :
    (∃ body, Text.IsLine body ∧ row w h = body ++ ['\n']) ↔
      Text.IsLine (cell w senderColumns h.sender) ∧ Text.IsLine (cell w subjectColumns h.subject) := by
  have hdate : Text.IsLine (Text.padRight ' ' 17 (dateText h)) := by
    simp [Text.padRight, isLine_dateText, Text.isLine_spaces]
  have hsize : Text.IsLine (Text.padLeft ' ' 8 (Text.ofSize h.size)) := by
    simp [Text.padLeft, Text.isLine_ofSize, Text.isLine_spaces]
  obtain ⟨body, hrow, hbody⟩ : ∃ body, row w h = body ++ ['\n'] ∧ (Text.IsLine body ↔
      Text.IsLine (cell w senderColumns h.sender) ∧ Text.IsLine (cell w subjectColumns h.subject)) := by
    refine ⟨_, rfl, ?_⟩
    simp [Text.join, hdate, hsize]
  rw [hrow, ← hbody]
  constructor
  · rintro ⟨other, hother, heq⟩
    rwa [List.append_cancel_right heq]
  · intro h
    exact ⟨body, h, rfl⟩

/-- A text without room is cut to the longest start whose characters leave room for the dots. What
is left of it fits if that start is not wider as a text than its characters are. A cell is as wide
as its column or as what stands in it, and a row is one line if no line break stands in its cells.
-/
theorem cells_fit_iff (hw : w.IsSpaced) (hc : 3 ≤ columns) (t : Text) (h : Header) :
    let kept := w.fitting columns t
    let cut := w.truncate columns t
    let sender := w.truncate 24 h.sender
    let subject := w.truncate 39 h.subject
    ((w.text t ≤ columns → cut = t) ∧
      (columns < w.text t → cut = kept ++ "...".toList ∧ kept <+: t ∧
        ∀ start, start <+: kept ↔ start <+: t ∧ w.chars start + 3 ≤ columns) ∧
      (w.text cut ≤ columns ↔ w.text t ≤ columns ∨ w.text kept + 3 ≤ columns) ∧
      (w.text kept ≤ w.chars kept → w.text cut ≤ columns)) ∧
    w.text (cell w senderColumns h.sender) = max 25 (w.text sender) ∧
    w.text (cell w subjectColumns h.subject) = max 40 (w.text subject) ∧
    ((∃ body, Text.IsLine body ∧ row w h = body ++ ['\n']) ↔
      Text.IsLine sender ∧ Text.IsLine subject) := by
  intro kept cut sender subject
  have hlongest : ∀ start, start <+: kept ↔ start <+: t ∧ w.chars start + 3 ≤ columns :=
    fun start => Widths.prefix_fitting_iff hc
  obtain ⟨hstart, hroom⟩ := (hlongest kept).mp List.prefix_rfl
  have hfits : w.text cut ≤ columns ↔ w.text t ≤ columns ∨ w.text kept + 3 ≤ columns :=
    hw.truncate_le_iff
  refine ⟨⟨Widths.truncate_of_le, fun ht => ⟨Widths.truncate_of_lt ht, hstart, hlongest⟩, hfits, ?_⟩,
    text_cell hw, text_cell hw, ?_⟩
  · intro hkept
    exact hfits.mpr (.inr (by omega))
  · rw [row_isLine_iff, isLine_cell, isLine_cell]
    rfl

theorem cells_fit_iff_wide :
    Widths.terminal.IsSpaced ∧ 3 ≤ 39 ∧
      Widths.terminal.text (Widths.terminal.truncate 39 (List.replicate 30 '山')) ≤ 39 ∧
      Widths.terminal.text (cell Widths.terminal senderColumns "a\tb".toList) = 25 := by
  obtain ⟨⟨-, -, hfits, -⟩, hsender, -⟩ := cells_fit_iff Widths.isSpaced_terminal (by decide : 3 ≤ 39)
    (List.replicate 30 '山') { sender := "a\tb".toList }
  exact ⟨Widths.isSpaced_terminal, by decide, hfits.mpr (by decide +kernel),
    hsender.trans (by decide +kernel)⟩

theorem cell_overflows :
    EncodedWord.decode ("=?UTF-8?Q?".toList ++ (List.replicate 40 "=09".toList).flatten ++ "?=".toList) =
        List.replicate 40 '\t' ∧
      Widths.terminal.text (Widths.terminal.truncate 39 (List.replicate 40 '\t')) = 43 ∧
      Widths.terminal.text (cell Widths.terminal subjectColumns (List.replicate 40 '\t')) = 43 ∧
      EncodedWord.decode "=?UTF-8?Q?a=0Ab?=".toList = "a\nb".toList ∧
      ¬ ∃ body, Text.IsLine body ∧
        row Widths.terminal { subject := "a\nb".toList } = body ++ ['\n'] := by
  refine ⟨by decide +kernel, by decide +kernel, by decide +kernel, by decide +kernel, ?_⟩
  rw [row_isLine_iff]
  rintro ⟨-, hsubject⟩
  have hmem : '\n' ∈ cell Widths.terminal subjectColumns "a\nb".toList := by decide +kernel
  exact (hsubject '\n' hmem).2 rfl

end Report

end MimeMail
