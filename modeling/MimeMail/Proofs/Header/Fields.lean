import MimeMail.Header.Read
import MimeMail.Proofs.Text.Lines
import MimeMail.Proofs.Text.Lowercase

namespace MimeMail.Field

/-- Text that writes one field, whatever fields come before it. -/
structure Writes (line : Text) (field : Field) : Prop extends Lines.IsBlock line where
  absorbed : ∀ fields, (Lines.ofText line).foldl absorb fields = field :: fields

theorem isBlock_of_writes {lines : List Text} {fields : List Field}
    (h : List.Forall₂ Writes lines fields) : ∀ l ∈ lines, Lines.IsBlock l := by
  induction h with
  | nil => simp
  | cons hw _ ih =>
    rw [List.forall_mem_cons]
    exact ⟨hw.toIsBlock, ih⟩

theorem lines_join {lines : List Text} {fields : List Field}
    (h : List.Forall₂ Writes lines fields) :
    Lines.ofText (Text.join lineBreak lines) = lines.flatMap Lines.ofText :=
  Lines.ofText_join fun l hl => ⟨(isBlock_of_writes h l hl).ne_nil, (isBlock_of_writes h l hl).last⟩

theorem foldl_absorb {lines : List Text} {fields : List Field}
    (h : List.Forall₂ Writes lines fields) (before : List Field) :
    (lines.flatMap Lines.ofText).foldl absorb before = fields.reverse ++ before := by
  induction h generalizing before with
  | nil => rfl
  | @cons line field lines fields hw hs ih =>
    rw [List.flatMap_cons, List.foldl_append, hw.absorbed, ih, List.reverse_cons,
      List.append_assoc]
    rfl

theorem ne_nil_of_mem_lines {lines : List Text} {fields : List Field}
    (h : List.Forall₂ Writes lines fields) : ∀ l ∈ lines.flatMap Lines.ofText, l ≠ [] := by
  intro l hl
  obtain ⟨line, hm, hl⟩ := List.mem_flatMap.mp hl
  exact (isBlock_of_writes h line hm).lines l hl

theorem ofText_join {lines : List Text} {fields : List Field}
    (h : List.Forall₂ Writes lines fields) : ofText (Text.join lineBreak lines) = fields := by
  have hn : ∀ l ∈ lines.flatMap Lines.ofText, (!l.isEmpty) = true := by
    simpa using ne_nil_of_mem_lines h
  rw [ofText, lines_join h, List.takeWhile_eq_self_iff.mpr hn, foldl_absorb h, List.append_nil,
    List.reverse_reverse]

def absorbLines (fields : List Field) (lines : List Text) : List Field :=
  (lines.takeWhile (!·.isEmpty)).foldl absorb fields

theorem absorbLines_cons (fields : List Field) (line : Text) (lines : List Text) :
    absorbLines fields (line :: lines) =
      if line = [] then fields else absorbLines (absorb fields line) lines := by
  unfold absorbLines
  by_cases h : line = [] <;> simp [h]

theorem absorbLines_line (fields : List Field) {p : Text} (r : Text) (hp : '\n' ∉ p) :
    absorbLines fields (Lines.ofText (p ++ '\n' :: r)) =
      if Lines.dropBreak (p ++ ['\n']) = [] then fields
      else absorbLines (absorb fields (Lines.dropBreak (p ++ ['\n']))) (Lines.ofText r) := by
  rw [Lines.ofText, Lines.cutAfter_append_stop r hp, List.map_cons, absorbLines_cons]
  rfl

theorem absorbLines_newline (fields : List Field) (r : Text) :
    absorbLines fields (Lines.ofText ('\n' :: r)) = fields :=
  (absorbLines_line fields r List.not_mem_nil).trans (if_pos rfl)

theorem absorbLines_lineBreak (fields : List Field) (r : Text) :
    absorbLines fields (Lines.ofText (lineBreak ++ r)) = fields := by
  have hr : '\n' ∉ ['\r'] := by decide
  exact (absorbLines_line fields r hr).trans (if_pos rfl)

structure IsRead (f : Field) : Prop where
  name_ne_nil : f.name ≠ []
  isUpper_name : ∀ c ∈ f.name, c.isUpper = false
  isTrimmed : Text.IsTrimmed f.value
  newline_not_mem : '\n' ∉ f.value

theorem isRead_of_ofLine {line : Text} {f : Field} (hl : '\n' ∉ line) (h : ofLine? line = some f) :
    f.IsRead := by
  rw [ofLine?] at h
  split at h
  · cases h
  · next name value hc =>
    dsimp only at h
    split at h
    · cases h
    · next hn =>
      cases h
      refine ⟨by simpa using hn, Text.isUpper_lowercase _, Text.isTrimmed_trim _, fun hm => hl ?_⟩
      rw [Text.cutAt_eq_some hc]
      exact List.mem_append_right _ (Text.mem_of_mem_trim hm)

theorem mem_of_mem_extend {value more : Text} {c : Char} (h : c ∈ extend value more) :
    c ∈ value ∨ c = ' ' ∨ c ∈ more := by
  rw [extend] at h
  split at h
  · exact .inl h
  · split at h
    · exact .inr (.inr h)
    · simpa using h

theorem isTrimmed_extend {value more : Text} (hv : Text.IsTrimmed value)
    (hm : Text.IsTrimmed more) : Text.IsTrimmed (extend value more) := by
  unfold extend
  split
  · exact hv
  · next hmore =>
    split
    · exact hm
    · next hvalue =>
      have hne : value ≠ [] := by simpa using hvalue
      apply Text.isTrimmed_append hne (List.cons_ne_nil ' ' more) hv.head
      have hlast : (' ' :: more).getLast? = more.getLast? := by
        obtain ⟨c, more, rfl⟩ := List.exists_cons_of_ne_nil (by simpa using hmore : more ≠ [])
        rw [List.getLast?_cons_cons]
      rw [hlast]
      exact hm.last

theorem IsRead.extend {f : Field} (h : f.IsRead) {line : Text} (hl : '\n' ∉ line) :
    IsRead { f with value := Field.extend f.value (Text.trim line) } := by
  refine ⟨h.name_ne_nil, h.isUpper_name, isTrimmed_extend h.isTrimmed (Text.isTrimmed_trim line), ?_⟩
  intro hm
  rcases mem_of_mem_extend hm with hm | hm | hm
  · exact h.newline_not_mem hm
  · cases hm
  · exact hl (Text.mem_of_mem_trim hm)

theorem isRead_absorb {fields : List Field} {line : Text} (hl : '\n' ∉ line)
    (h : ∀ f ∈ fields, f.IsRead) : ∀ f ∈ absorb fields line, f.IsRead := by
  unfold absorb
  split
  · cases fields with
    | nil => exact h
    | cons field fields =>
      rw [List.forall_mem_cons] at h ⊢
      exact ⟨h.1.extend hl, h.2⟩
  · split
    · next field ho => exact List.forall_mem_cons.mpr ⟨isRead_of_ofLine hl ho, h⟩
    · exact h

theorem isRead_foldl {lines : List Text} {fields : List Field} (hl : ∀ l ∈ lines, '\n' ∉ l)
    (h : ∀ f ∈ fields, f.IsRead) : ∀ f ∈ lines.foldl absorb fields, f.IsRead := by
  induction lines generalizing fields with
  | nil => exact h
  | cons line lines ih =>
    rw [List.forall_mem_cons] at hl
    exact ih hl.2 (isRead_absorb hl.1 h)

theorem isRead_ofText {t : Text} : ∀ f ∈ ofText t, f.IsRead := by
  intro f hf
  rw [ofText, List.mem_reverse] at hf
  refine isRead_foldl (fun l hl => ?_) (List.forall_mem_nil _) f hf
  exact Lines.not_mem_of_mem_ofText ((List.takeWhile_prefix _).mem hl)

def IsName (name lower : Text) : Prop :=
  ':' ∉ name ∧ Text.IsLine name ∧ (name.head?.any fun c => c != ' ' && c != '\t') = true ∧
    Text.lowercase (Text.trim name) = lower ∧ lower ≠ []

theorem IsName.ofLine {name lower : Text} (h : IsName name lower) (value : Text) :
    ofLine? (name ++ ':' :: value) = some ⟨lower, Text.trim value⟩ := by
  obtain ⟨hc, -, -, rfl, hn⟩ := h
  rw [ofLine?, Text.cutAt_append_char value hc]
  simp [hn]

theorem IsName.isFolded {name lower : Text} (h : IsName name lower) (r : Text) :
    isFolded (name ++ r) = false := by
  obtain ⟨-, -, hh, -, -⟩ := h
  cases name with
  | nil => simp at hh
  | cons c name => simpa [Field.isFolded] using hh

theorem writes_line {name lower v : Text} (hn : IsName name lower) (hv : Text.IsLine v) :
    Writes (name ++ ':' :: ' ' :: v) ⟨lower, Text.trim v⟩ := by
  have hl : Text.IsLine (name ++ ':' :: ' ' :: v) := by
    simp [hn.2.1, hv]
  have hne : name ++ ':' :: ' ' :: v ≠ [] := by simp
  have hnewline : '\n' ∉ name ++ ':' :: ' ' :: v := fun hm => (hl _ hm).2 rfl
  refine ⟨Lines.isBlock_of_not_mem hne hnewline, fun fields => ?_⟩
  have hr : Text.trim (' ' :: v) = Text.trim v := Text.trim_cons_blank rfl
  rw [Lines.ofText_of_not_mem hne hnewline, List.foldl_cons, List.foldl_nil]
  unfold absorb
  rw [hn.isFolded, if_neg (by simp), hn.ofLine, hr]

theorem writes_trimmed {name lower v : Text} (hn : IsName name lower) (hv : Text.IsLine v)
    (ht : Text.IsTrimmed v) : Writes (name ++ ':' :: ' ' :: v) ⟨lower, v⟩ := by
  have hw := writes_line hn hv
  rwa [ht] at hw

theorem writes_folded {name lower v m : Text} (hn : IsName name lower)
    (hv : Text.IsLine v) (hm : Text.IsLine m) :
    Writes (name ++ ':' :: ' ' :: v ++ lineBreak ++ '\t' :: m)
      ⟨lower, extend (Text.trim v) (Text.trim m)⟩ := by
  have hw := writes_line hn hv
  have hml : Text.IsLine ('\t' :: m) := by simp [hm]
  have hne : '\t' :: m ≠ [] := List.cons_ne_nil _ _
  have hnewline : '\n' ∉ '\t' :: m := fun h => (hml _ h).2 rfl
  refine ⟨hw.toIsBlock.append (Lines.isBlock_of_not_mem hne hnewline), fun fields => ?_⟩
  have ht : Text.trim ('\t' :: m) = Text.trim m := Text.trim_cons_blank rfl
  rw [Lines.ofText_append_lineBreak _ hw.ne_nil hw.last, Lines.ofText_of_not_mem hne hnewline,
    List.foldl_append, hw.absorbed]
  simp [absorb, Field.isFolded, ht]

end MimeMail.Field

namespace MimeMail.FieldMap

theorem ne_nil_of_mem_addTo {field : Field} {entries : List (Text × List Text)}
    (h : ∀ e ∈ entries, e.2 ≠ []) : ∀ e ∈ addTo field entries, e.2 ≠ [] := by
  induction entries with
  | nil => simp [addTo]
  | cons e entries ih =>
    obtain ⟨name, values⟩ := e
    rw [List.forall_mem_cons] at h
    rw [addTo]
    split
    · rw [List.forall_mem_cons]
      exact ⟨by simp, h.2⟩
    · rw [List.forall_mem_cons]
      exact ⟨h.1, ih h.2⟩

theorem addTo_of_not_mem {field : Field} {entries : List (Text × List Text)}
    (h : field.name ∉ entries.map (·.1)) :
    addTo field entries = entries ++ [(field.name, [field.value])] := by
  induction entries with
  | nil => rfl
  | cons entry entries ih =>
    rw [List.map_cons, List.mem_cons, not_or] at h
    rw [addTo, if_neg (by simpa using Ne.symm h.1), ih h.2]
    rfl

theorem first?_addTo {field : Field} {entries : List (Text × List Text)} (q : Text)
    (h : ∀ e ∈ entries, e.2 ≠ []) :
    first? ⟨addTo field entries⟩ q =
      (first? ⟨entries⟩ q <|> if Text.same field.name q then some field.value else none) := by
  induction entries with
  | nil => by_cases hs : Text.same field.name q <;> simp [first?, get?, addTo, hs]
  | cons e entries ih =>
    obtain ⟨name, values⟩ := e
    rw [List.forall_mem_cons] at h
    have hi := ih h.2
    obtain ⟨v, vs, rfl⟩ := List.exists_cons_of_ne_nil h.1
    simp only [first?, get?] at hi ⊢
    rw [addTo]
    by_cases hs : Text.same name q
    · split <;> simp [hs]
    · split
      · next he =>
        have he : name = field.name := by simpa using he
        subst he
        simp [hs]
      · simp [hs, hi]

theorem first?_foldl (fields : List Field) (map : FieldMap) (q : Text)
    (h : ∀ e ∈ map.entries, e.2 ≠ []) :
    (fields.foldl insert map).first? q =
      (map.first? q <|> (fields.find? fun f => Text.same f.name q).map Field.value) := by
  induction fields generalizing map with
  | nil => simp
  | cons f fields ih =>
    have hi := ih (map.insert f) (ne_nil_of_mem_addTo h)
    have hf : first? (map.insert f) q = (map.first? q <|> _) := first?_addTo q h
    rw [List.foldl_cons, hi, hf, List.find?_cons]
    by_cases hs : Text.same f.name q <;> cases map.first? q <;> simp [hs]

theorem first?_ofFields (fields : List Field) (q : Text) :
    (ofFields fields).first? q = (fields.find? fun f => Text.same f.name q).map Field.value := by
  rw [ofFields, first?_foldl fields {} q (by simp)]
  simp [first?, get?]

theorem newline_not_mem_first {t q v : Text} (h : (ofText t).first? q = some v) : '\n' ∉ v := by
  rw [ofText, first?_ofFields] at h
  obtain ⟨f, hf, rfl⟩ := Option.map_eq_some_iff.mp h
  exact (Field.isRead_ofText f (List.mem_of_find?_eq_some hf)).newline_not_mem

end MimeMail.FieldMap
