import MimeMail.Content.Multipart
import MimeMail.Proofs.Text.Lines
import MimeMail.Proofs.Text.Utf8

namespace MimeMail.Multipart

def crlf : Bytes := [0x0D, 0x0A]

def mark (boundary : Text) (rest : Bytes) : Bytes := hyphens ++ Utf8.encode boundary ++ rest

def write (boundary : Text) (preamble : Bytes) (parts : List Bytes) (epilogue : Bytes) : Bytes :=
  preamble ++ (parts.flatMap fun part => mark boundary [] ++ crlf ++ (part ++ crlf)) ++
    (mark boundary hyphens ++ crlf ++ epilogue)

structure IsBoundary (boundary : Text) : Prop where
  newline_not_mem : '\n' ∉ boundary
  last : ∀ b ∈ (Utf8.encode boundary).getLast?, isBlank b = false

/-- No line is a delimiter line of the boundary, whatever blanks it ends in. -/
def Avoids (boundary : Text) (bs : Bytes) : Prop :=
  ∀ line ∈ Lines.cutAfter 0x0A bs,
    line.rdropWhile isBlank ≠ mark boundary [] ∧ line.rdropWhile isBlank ≠ mark boundary hyphens

instance (boundary : Text) (bs : Bytes) : Decidable (Avoids boundary bs) :=
  inferInstanceAs (Decidable (∀ line ∈ Lines.cutAfter 0x0A bs,
    line.rdropWhile isBlank ≠ mark boundary [] ∧ line.rdropWhile isBlank ≠ mark boundary hyphens))

variable {boundary : Text}

theorem delimiter?_eq (line : Bytes) :
    delimiter? boundary line =
      if line.rdropWhile isBlank = mark boundary [] then some .between
      else if line.rdropWhile isBlank = mark boundary hyphens then some .closing
      else none := by
  have hrest (rest : Bytes) :
      (dropStart? (hyphens ++ Utf8.encode boundary) (line.rdropWhile isBlank) == some rest) =
        decide (line.rdropWhile isBlank = mark boundary rest) := by
    rw [Bool.eq_iff_iff, beq_iff_eq, dropStart?_eq_some_iff, decide_eq_true_eq]
    rfl
  unfold delimiter?
  dsimp only
  change (if (dropStart? _ (line.rdropWhile isBlank) == _) = true then _ else
    if (dropStart? _ (line.rdropWhile isBlank) == _) = true then _ else _) = _
  rw [hrest, hrest]
  simp only [decide_eq_true_eq]

theorem Avoids.delimiter?_eq_none {bs : Bytes} (h : Avoids boundary bs) :
    ∀ line ∈ Lines.cutAfter 0x0A bs, delimiter? boundary line = none := by
  intro line hl
  obtain ⟨hb, hc⟩ := h line hl
  rw [delimiter?_eq, if_neg hb, if_neg hc]

theorem rdropWhile_append_crlf (bs : Bytes) :
    (bs ++ crlf).rdropWhile isBlank = bs.rdropWhile isBlank :=
  Text.rdropWhile_append_of_all (by simp [crlf, isBlank])

theorem rdropWhile_crlf : crlf.rdropWhile isBlank = [] := by decide

theorem Avoids.append_crlf {bs : Bytes} (h : Avoids boundary bs) :
    Avoids boundary (bs ++ crlf) := by
  intro line hl
  have hcr : (0x0A : UInt8) ∉ [(0x0D : UInt8)] := by decide
  rcases Lines.mem_cutAfter_append hcr hl with hm | rfl | ⟨l, hm, rfl⟩
  · exact h line hm
  · change crlf.rdropWhile isBlank ≠ _ ∧ crlf.rdropWhile isBlank ≠ _
    rw [rdropWhile_crlf]
    exact ⟨List.cons_ne_nil _ _ ∘ Eq.symm, List.cons_ne_nil _ _ ∘ Eq.symm⟩
  · change (l ++ crlf).rdropWhile isBlank ≠ _ ∧ (l ++ crlf).rdropWhile isBlank ≠ _
    rw [rdropWhile_append_crlf]
    exact h l hm

namespace IsBoundary

variable (h : IsBoundary boundary)
include h

theorem not_mem_mark {rest : Bytes} (hr : 0x0A ∉ rest) : 0x0A ∉ mark boundary rest ++ [0x0D] := by
  have hb := Utf8.newline_not_mem_encode h.newline_not_mem
  simp [mark, hyphens, hb, hr]

theorem rdropWhile_mark {rest : Bytes} (hr : rest = [] ∨ rest = hyphens) :
    (mark boundary rest ++ crlf).rdropWhile isBlank = mark boundary rest := by
  rw [rdropWhile_append_crlf]
  apply Text.rdropWhile_eq_self
  intro b hb
  rcases hr with rfl | rfl
  · rw [mark, List.append_nil, List.getLast?_append] at hb
    cases hl : (Utf8.encode boundary).getLast? with
    | none =>
      rw [hl] at hb
      cases hb
      rfl
    | some c =>
      rw [hl] at hb
      cases hb
      exact h.last b hl
  · rw [mark, List.getLast?_append] at hb
    cases hb
    rfl

theorem delimiter?_between : delimiter? boundary (mark boundary [] ++ crlf) = some .between := by
  rw [delimiter?_eq, h.rdropWhile_mark (.inl rfl), if_pos rfl]

theorem delimiter?_closing :
    delimiter? boundary (mark boundary hyphens ++ crlf) = some .closing := by
  have hne : mark boundary hyphens ≠ mark boundary [] := by simp [mark, hyphens]
  rw [delimiter?_eq, h.rdropWhile_mark (.inr rfl), if_neg hne, if_pos rfl]

theorem cutAfter_mark {rest : Bytes} (r : Bytes) (hr : 0x0A ∉ rest) :
    Lines.cutAfter 0x0A (mark boundary rest ++ crlf ++ r) =
      (mark boundary rest ++ crlf) :: Lines.cutAfter 0x0A r := by
  have hc := Lines.cutAfter_append_stop r (h.not_mem_mark hr)
  simpa only [crlf, List.append_assoc, List.cons_append, List.nil_append] using hc

end IsBoundary

theorem go_append {lines : List Bytes} (part : Option (List Bytes)) (rest : List Bytes)
    (h : ∀ line ∈ lines, delimiter? boundary line = none) :
    split.go boundary part (lines ++ rest) =
      split.go boundary (part.map (lines.reverse ++ ·)) rest := by
  induction lines generalizing part with
  | nil => cases part <;> rfl
  | cons line lines ih =>
    rw [List.cons_append, split.go, h line List.mem_cons_self]
    dsimp only
    rw [ih _ fun l hl => h l (List.mem_cons_of_mem _ hl)]
    cases part <;> simp

theorem dropBreak_append_crlf (part : Bytes) : dropBreak (part ++ crlf) = part := by
  simp [dropBreak, crlf]

theorem dropBreak_append_newline {p : Bytes} (h : p.getLast? ≠ some 0x0D) :
    dropBreak (p ++ [0x0A]) = p := by
  rcases List.eq_nil_or_concat p with rfl | ⟨q, c, rfl⟩
  · rfl
  · have hc : c ≠ 0x0D := by simpa using h
    simp [dropBreak, hc]

theorem dropBreak_of_last {bs : Bytes} (h : bs.getLast? ≠ some 0x0A) : dropBreak bs = bs := by
  rw [← List.head?_reverse] at h
  unfold dropBreak
  split <;> simp_all

theorem getLast?_append_crlf (part : Bytes) : ∀ b ∈ (part ++ crlf).getLast?, b = 0x0A := by
  intro b hb
  rw [List.getLast?_append] at hb
  cases hb
  rfl

theorem go_write (h : IsBoundary boundary) {parts : List Bytes}
    (hp : ∀ part ∈ parts, Avoids boundary part) (epilogue : Bytes) (lines : Option (List Bytes)) :
    split.go boundary lines (Lines.cutAfter 0x0A (write boundary [] parts epilogue)) =
      (lines.map fun lines => dropBreak lines.reverse.flatten).toList ++ parts := by
  induction parts generalizing lines with
  | nil =>
    change split.go boundary lines (Lines.cutAfter 0x0A (mark boundary hyphens ++ crlf ++ _)) = _
    rw [h.cutAfter_mark _ (by decide), split.go, h.delimiter?_closing]
    rfl
  | cons part parts ih =>
    have hpart := (hp part List.mem_cons_self).append_crlf
    have hw : write boundary [] (part :: parts) epilogue =
        mark boundary [] ++ crlf ++ (part ++ crlf ++ write boundary [] parts epilogue) := by
      simp [write]
    rw [hw, h.cutAfter_mark _ (by decide), split.go, h.delimiter?_between,
      Lines.cutAfter_append (getLast?_append_crlf part)]
    dsimp only
    rw [if_neg (by decide), go_append _ _ hpart.delimiter?_eq_none,
      ih fun p hm => hp p (List.mem_cons_of_mem _ hm)]
    simp [Lines.flatten_cutAfter, dropBreak_append_crlf]

theorem split_write (h : IsBoundary boundary) {preamble : Bytes} {parts : List Bytes}
    (hlast : ∀ b ∈ preamble.getLast?, b = 0x0A) (hpre : Avoids boundary preamble)
    (hp : ∀ part ∈ parts, Avoids boundary part) (epilogue : Bytes) :
    split boundary (write boundary preamble parts epilogue) = parts := by
  have hw : write boundary preamble parts epilogue =
      preamble ++ write boundary [] parts epilogue := by
    simp [write]
  rw [split, hw, Lines.cutAfter_append hlast, go_append _ _ hpre.delimiter?_eq_none]
  exact go_write h hp epilogue none

end MimeMail.Multipart
