import MimeMail.Proofs.Header.Grouping
import MimeMail.Proofs.Header.MediaTypes

namespace MimeMail

inductive LineEnd where
  | newline
  | crlf
  deriving DecidableEq

def LineEnd.text : LineEnd → Text
  | newline => ['\n']
  | crlf => lineBreak

structure Fold where
  blanks : Text
  segment : Text
  ending : LineEnd
  deriving DecidableEq

structure FoldedField where
  name : Text
  first : Text
  ending : LineEnd
  folds : List Fold
  deriving DecidableEq

namespace Fold

def text (d : Fold) : Text := d.blanks ++ d.segment ++ d.ending.text

structure IsWellFormed (d : Fold) : Prop where
  blanks_ne_nil : d.blanks ≠ []
  blanks : ∀ c ∈ d.blanks, c = ' ' ∨ c = '\t'
  segment_ne_nil : d.segment ≠ []
  isTrimmed : Text.IsTrimmed d.segment
  newline_not_mem : '\n' ∉ d.segment

end Fold

namespace FoldedField

def text (f : FoldedField) : Text :=
  f.name ++ ':' :: ' ' :: f.first ++ f.ending.text ++ f.folds.flatMap Fold.text

def value (f : FoldedField) : Text :=
  Text.join [' '] ((f.first :: f.folds.map Fold.segment).filter (!·.isEmpty))

def field (f : FoldedField) : Field := ⟨f.name.map Char.toLower, f.value⟩

structure IsWellFormed (f : FoldedField) : Prop where
  name_ne_nil : f.name ≠ []
  name : ∀ c ∈ f.name, Text.isGraphic c = true ∧ c ≠ ':'
  isTrimmed : Text.IsTrimmed f.first
  newline_not_mem : '\n' ∉ f.first
  folds : ∀ d ∈ f.folds, d.IsWellFormed

end FoldedField

namespace Field

theorem absorbLines_ending (fields : List Field) {line : Text} (ending : LineEnd) (r : Text)
    (hne : line ≠ []) (hn : '\n' ∉ line) (hl : line.getLast? ≠ some '\r') :
    absorbLines fields (Lines.ofText (line ++ ending.text ++ r)) =
      absorbLines (absorb fields line) (Lines.ofText r) := by
  cases ending with
  | newline =>
    rw [LineEnd.text, List.append_assoc, List.singleton_append, absorbLines_line fields r hn,
      Lines.dropBreak_newline hl, if_neg hne]
  | crlf =>
    have hr : '\n' ∉ line ++ ['\r'] := by simpa using hn
    have hb : line ++ lineBreak ++ r = line ++ ['\r'] ++ '\n' :: r := by simp [lineBreak]
    have hd : Lines.dropBreak (line ++ ['\r'] ++ ['\n']) = line := by
      simpa [lineBreak] using Lines.dropBreak_append_lineBreak line
    rw [LineEnd.text, hb, absorbLines_line fields r hr, hd, if_neg hne]

theorem absorbLines_rest (fields : List Field) {rest : Text}
    (h : rest = [] ∨ ∃ (ending : LineEnd) (r : Text), rest = ending.text ++ r) :
    absorbLines fields (Lines.ofText rest) = fields := by
  rcases h with rfl | ⟨ending, r, rfl⟩
  · rfl
  · cases ending with
    | newline => exact absorbLines_newline fields r
    | crlf => exact absorbLines_lineBreak fields r

theorem absorb_fold {d : Fold} (h : d.IsWellFormed) (field : Field) (fields : List Field) :
    absorb (field :: fields) (d.blanks ++ d.segment) =
      { field with value := extend field.value d.segment } :: fields := by
  have hblank : ∀ c ∈ d.blanks, Text.isBlank c = true := by
    intro c hc
    rcases h.blanks c hc with rfl | rfl <;> rfl
  have hfolded : isFolded (d.blanks ++ d.segment) = true := by
    obtain ⟨c, blanks, hb⟩ := List.exists_cons_of_ne_nil h.blanks_ne_nil
    have hc := h.blanks c (hb ▸ List.mem_cons_self)
    simpa [hb, isFolded] using hc
  have htrim : Text.trim (d.blanks ++ d.segment) = d.segment :=
    (Text.trim_blanks_append _ hblank).trans h.isTrimmed
  rw [absorb, if_pos hfolded, htrim]

theorem absorbLines_folds {folds : List Fold} (h : ∀ d ∈ folds, d.IsWellFormed) (field : Field)
    (fields : List Field) (r : Text) :
    absorbLines (field :: fields) (Lines.ofText (folds.flatMap Fold.text ++ r)) =
      absorbLines ({ field with value := (folds.map Fold.segment).foldl extend field.value } :: fields)
        (Lines.ofText r) := by
  induction folds generalizing field with
  | nil => rfl
  | cons d folds ih =>
    rw [List.forall_mem_cons] at h
    have hline : '\n' ∉ d.blanks ++ d.segment := by
      rw [List.mem_append, not_or]
      refine ⟨fun hm => ?_, h.1.newline_not_mem⟩
      rcases h.1.blanks _ hm with hc | hc <;> cases hc
    have hlast : (d.blanks ++ d.segment).getLast? ≠ some '\r' := by
      rw [List.getLast?_append_of_ne_nil _ h.1.segment_ne_nil]
      intro hl
      exact absurd (h.1.isTrimmed.last _ hl) (by decide)
    rw [List.flatMap_cons, Fold.text, List.append_assoc,
      absorbLines_ending _ d.ending _ (by simp [h.1.blanks_ne_nil]) hline hlast, absorb_fold h.1,
      ih h.2]
    rfl

theorem foldl_extend {segments : List Text} (v : Text) (h : ∀ s ∈ segments, s ≠ []) :
    segments.foldl extend v = Text.join [' '] ((v :: segments).filter (!·.isEmpty)) := by
  induction segments generalizing v with
  | nil => cases v <;> rfl
  | cons s segments ih =>
    rw [List.forall_mem_cons] at h
    have hs : s.isEmpty = false := by simpa using h.1
    rw [List.foldl_cons, ih _ h.2, extend, hs, if_neg Bool.false_ne_true]
    cases v with
    | nil => simp
    | cons c v =>
      -- The first segment and the next one are one text, with the space between them.
      by_cases hn : segments.filter (!·.isEmpty) = []
      · simp [hs, hn, Text.join]
      · simp [hs, Text.join_cons hn, Text.join_cons (List.cons_ne_nil s _)]

theorem isName_of_isWellFormed {f : FoldedField} (h : f.IsWellFormed) :
    IsName f.name (f.name.map Char.toLower) := by
  have hascii : ∀ c ∈ f.name, c.toNat < 128 := fun c hc => MediaType.lt_of_isGraphic (h.name c hc).1
  have htrim : Text.IsTrimmed f.name :=
    Text.isTrimmed_of_isGraphic fun c hc => (h.name c hc).1
  have hne {c d : Char} (hc : c ∈ f.name) (hd : Text.isGraphic d = false) : c ≠ d := by
    rintro rfl
    rw [(h.name c hc).1] at hd
    cases hd
  have hline : Text.IsLine f.name := Text.isLine_of_isGraphic fun c hc => (h.name c hc).1
  refine ⟨fun hm => (h.name _ hm).2 rfl, hline, ?_, ?_, ?_⟩
  · obtain ⟨c, name, hn⟩ := List.exists_cons_of_ne_nil h.name_ne_nil
    have hc : c ∈ f.name := hn ▸ List.mem_cons_self
    simp [hn, hne hc (show Text.isGraphic ' ' = false from rfl),
      hne hc (show Text.isGraphic '\t' = false from rfl)]
  · rw [htrim, Text.lowercase_eq_map hascii]
  · simpa using h.name_ne_nil

theorem absorbLines_field {f : FoldedField} (h : f.IsWellFormed) (fields : List Field) (r : Text) :
    absorbLines fields (Lines.ofText (f.text ++ r)) =
      absorbLines (f.field :: fields) (Lines.ofText r) := by
  have hname := isName_of_isWellFormed h
  have hline : '\n' ∉ f.name ++ ':' :: ' ' :: f.first := by
    have hn : '\n' ∉ f.name := fun hm => (hname.2.1 _ hm).2 rfl
    simp [hn, h.newline_not_mem]
  have hlast : (f.name ++ ':' :: ' ' :: f.first).getLast? ≠ some '\r' := by
    intro hl
    cases hf : f.first.getLast? with
    | none => simp [List.getLast?_append, List.getLast?_cons, hf] at hl
    | some c =>
      have hc := h.isTrimmed.last c hf
      obtain rfl : c = '\r' := by
        simpa [List.getLast?_append, List.getLast?_cons, hf] using hl
      cases hc
  have htrim : Text.trim (' ' :: f.first) = f.first := (Text.trim_cons_blank rfl).trans h.isTrimmed
  have habsorb : absorb fields (f.name ++ ':' :: ' ' :: f.first) =
      ⟨f.name.map Char.toLower, f.first⟩ :: fields := by
    unfold absorb
    rw [hname.isFolded, if_neg Bool.false_ne_true, hname.ofLine, htrim]
  have hsegments : ∀ s ∈ f.folds.map Fold.segment, s ≠ [] :=
    List.forall_mem_map.mpr fun d hd => (h.folds d hd).segment_ne_nil
  rw [FoldedField.text, List.append_assoc, absorbLines_ending fields f.ending _ (by simp) hline hlast,
    habsorb, absorbLines_folds h.folds, foldl_extend _ hsegments]
  rfl

theorem absorbLines_fields {fs : List FoldedField} (h : ∀ f ∈ fs, f.IsWellFormed)
    (fields : List Field) (r : Text) :
    absorbLines fields (Lines.ofText (fs.flatMap FoldedField.text ++ r)) =
      absorbLines ((fs.map FoldedField.field).reverse ++ fields) (Lines.ofText r) := by
  induction fs generalizing fields with
  | nil => rfl
  | cons f fs ih =>
    rw [List.forall_mem_cons] at h
    rw [List.flatMap_cons, List.append_assoc, absorbLines_field h.1, ih h.2, List.map_cons,
      List.reverse_cons, List.append_assoc]
    rfl

end Field

namespace FieldMap

theorem ofText_folded {fs : List FoldedField} {rest : Text} (hf : ∀ f ∈ fs, f.IsWellFormed)
    (hrest : rest = [] ∨ ∃ (ending : LineEnd) (r : Text), rest = ending.text ++ r) :
    (ofText (fs.flatMap FoldedField.text ++ rest)).entries =
      grouped (fs.map FoldedField.field) := by
  have hread : Field.ofText (fs.flatMap FoldedField.text ++ rest) = fs.map FoldedField.field := by
    have hlines := Field.absorbLines_fields hf [] rest
    rw [Field.absorbLines_rest _ hrest, List.append_nil] at hlines
    have hreverse := congrArg List.reverse hlines
    rwa [List.reverse_reverse] at hreverse
  rw [ofText, hread, entries_ofFields]

theorem ofText_folded_repeated :
    (ofText "Received: by a\r\n\t id 1\nSubject: \n long\r\nRECEIVED: by b\n\r\nTo: x".toList).entries =
      [("received".toList, ["by a id 1".toList, "by b".toList]),
        ("subject".toList, ["long".toList])] := by
  let received : FoldedField :=
    ⟨"Received".toList, "by a".toList, .crlf, [⟨"\t ".toList, "id 1".toList, .newline⟩]⟩
  let subject : FoldedField := ⟨"Subject".toList, [], .newline, [⟨[' '], "long".toList, .crlf⟩]⟩
  let again : FoldedField := ⟨"RECEIVED".toList, "by b".toList, .newline, []⟩
  have hreceived : received.IsWellFormed := by
    refine ⟨by simp [received], by simp [received, Text.isGraphic], by decide, by simp [received], ?_⟩
    exact List.forall_mem_singleton.mpr ⟨by simp, by simp, by simp, by decide, by simp⟩
  have hsubject : subject.IsWellFormed := by
    refine ⟨by simp [subject], by simp [subject, Text.isGraphic], by decide, by simp [subject], ?_⟩
    exact List.forall_mem_singleton.mpr ⟨by simp, by simp, by simp, by decide, by simp⟩
  have hagain : again.IsWellFormed :=
    ⟨by simp [again], by simp [again, Text.isGraphic], by decide, by simp [again], by simp [again]⟩
  have hfields : ∀ f ∈ [received, subject, again], f.IsWellFormed := by
    simp [hreceived, hsubject, hagain]
  have hread := ofText_folded hfields (.inr ⟨.crlf, "To: x".toList, rfl⟩)
  exact hread.trans (by decide +kernel)

end FieldMap

end MimeMail
