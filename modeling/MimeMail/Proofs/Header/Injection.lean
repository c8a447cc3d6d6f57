import MimeMail.Proofs.Header.Grouping
import MimeMail.Proofs.Header.Written

namespace MimeMail.Lines

theorem dropBreak_append_newline_left {p : Text} (q : Text) (h : p.getLast? ≠ some '\r') :
    dropBreak (p ++ (q ++ ['\n'])) = p ++ dropBreak (q ++ ['\n']) := by
  rcases List.eq_nil_or_concat q with rfl | ⟨s, c, rfl⟩
  · have hn : dropBreak ['\n'] = [] := rfl
    rw [List.nil_append, dropBreak_newline h, hn, List.append_nil]
  · by_cases hc : c = '\r'
    · have hb : s.concat c ++ ['\n'] = s ++ lineBreak := by simp [hc, lineBreak]
      rw [hb, dropBreak_append_lineBreak, ← List.append_assoc, dropBreak_append_lineBreak]
    · have hl : (s.concat c).getLast? ≠ some '\r' := by simpa using hc
      have hp : (p ++ s.concat c).getLast? ≠ some '\r' := by
        rwa [List.getLast?_append_of_ne_nil _ (by simp)]
      rw [dropBreak_newline hl, ← List.append_assoc, dropBreak_newline hp]

theorem ofText_append_of_not_mem {p t : Text} (hp : '\n' ∉ p) (hr : p.getLast? ≠ some '\r')
    (ht : t ≠ []) :
    ∃ first, ofText t = first :: (ofText t).tail ∧
      ofText (p ++ t) = (p ++ first) :: (ofText t).tail := by
  by_cases hn : '\n' ∈ t
  · obtain ⟨q, r, rfl, hq⟩ := List.eq_append_cons_of_mem hn
    have hpq : '\n' ∉ p ++ q := by simp [hp, hq]
    refine ⟨dropBreak (q ++ ['\n']), ?_⟩
    rw [ofText, ofText, ← List.append_assoc, cutAfter_append_stop r hq, cutAfter_append_stop r hpq,
      List.map_cons, List.map_cons, List.append_assoc, dropBreak_append_newline_left q hr]
    exact ⟨rfl, rfl⟩
  · rw [ofText_of_not_mem ht hn, ofText_of_not_mem (by simp [ht]) (by simp [hp, hn])]
    exact ⟨t, rfl, rfl⟩

end MimeMail.Lines

namespace MimeMail.Field

def startedBy (line : Text) : List Text :=
  if isFolded line then [] else ((ofLine? line).map name).toList

theorem startedBy_eq_nil_iff {line : Text} :
    startedBy line = [] ↔ isFolded line = true ∨ ofLine? line = none := by
  unfold startedBy
  split
  · next h => simp [h]
  · next h => simp [h]

theorem names_absorb (fields : List Field) (line : Text) :
    (absorb fields line).map name = (startedBy line).reverse ++ fields.map name := by
  unfold absorb startedBy
  split
  · cases fields <;> rfl
  · cases ofLine? line <;> rfl

theorem names_foldl (lines : List Text) (fields : List Field) :
    (lines.foldl absorb fields).map name =
      (lines.flatMap startedBy).reverse ++ fields.map name := by
  induction lines generalizing fields with
  | nil => rfl
  | cons line lines ih =>
    rw [List.foldl_cons, ih, names_absorb, List.flatMap_cons, List.reverse_append, List.append_assoc]

theorem names_ofText {t : Text} (h : ∀ line ∈ Lines.ofText t, line ≠ []) :
    (ofText t).map name = (Lines.ofText t).flatMap startedBy := by
  have ht : ∀ line ∈ Lines.ofText t, (!line.isEmpty) = true := by simpa using h
  rw [ofText, List.takeWhile_eq_self_iff.mpr ht, List.map_reverse, names_foldl]
  simp

structure Starts (lines names : List Text) : Prop where
  ne_nil : ∀ line ∈ lines, line ≠ []
  names : lines.flatMap startedBy = names

theorem Starts.append {lines names more others : List Text} (h : Starts lines names)
    (hm : Starts more others) : Starts (lines ++ more) (names ++ others) := by
  constructor
  · exact List.forall_mem_append.mpr ⟨h.ne_nil, hm.ne_nil⟩
  · rw [List.flatMap_append, h.names, hm.names]

theorem starts_of_writes {lines : List Text} {fields : List Field}
    (h : List.Forall₂ Writes lines fields) :
    Starts (lines.flatMap Lines.ofText) (fields.map name) := by
  refine ⟨ne_nil_of_mem_lines h, ?_⟩
  have hn := names_foldl (lines.flatMap Lines.ofText) []
  rw [foldl_absorb h] at hn
  simpa using (congrArg List.reverse hn).symm

theorem startedBy_of_name {name lower : Text} (hn : IsName name lower) (value : Text) :
    startedBy (name ++ ':' :: value) = [lower] := by
  rw [startedBy, hn.isFolded, if_neg Bool.false_ne_true, hn.ofLine]
  rfl

end MimeMail.Field

namespace MimeMail.FieldMap

def counts (map : FieldMap) : List (Text × ℕ) :=
  map.entries.map fun entry => (entry.1, entry.2.length)

theorem counts_ofFields (fields : List Field) :
    (ofFields fields).counts = (fields.map Field.name).eraseDups.map fun name =>
      (name, (fields.map Field.name).count name) := by
  rw [counts, entries_ofFields, grouped, List.map_map]
  exact List.map_congr_left fun name _ => by rw [Function.comp_apply, length_valuesOf]

theorem sum_addTo (field : Field) (entries : List (Text × List Text)) :
    ((addTo field entries).map fun entry => entry.2.length).sum =
      (entries.map fun entry => entry.2.length).sum + 1 := by
  induction entries with
  | nil => rfl
  | cons entry entries ih =>
    rw [addTo]
    split
    · simp only [List.map_cons, List.sum_cons, List.length_append, List.length_singleton]
      omega
    · simp only [List.map_cons, List.sum_cons, ih]
      omega

theorem sum_counts (fields : List Field) :
    ((ofFields fields).counts.map (·.2)).sum = fields.length := by
  rw [counts, List.map_map]
  induction fields using List.reverseRecOn with
  | nil => rfl
  | append_singleton fields field ih =>
    rw [ofFields, List.foldl_append, List.length_append, ← ih]
    exact sum_addTo field _

theorem counts_of_nodup {fields : List Field} (h : (fields.map Field.name).Nodup) :
    (ofFields fields).counts = (fields.map Field.name).map fun name => (name, 1) := by
  rw [counts_ofFields, eraseDups_of_nodup h]
  exact List.map_congr_left fun name hname => by rw [List.count_eq_one_of_mem h hname]

end MimeMail.FieldMap

namespace MimeMail.Descriptor

/-- The lines that the media type goes on to after its first one; its semicolon ends the last. -/
def laterLines (d : Descriptor) : List Text := (Lines.ofText (d.mediaType ++ [';'])).tail

theorem ofText_typeLine (d : Descriptor) :
    ∃ value folded,
      Lines.ofText ("Content-Type: ".toList ++ d.mediaType ++ ';' :: d.writtenParams) =
        ("Content-Type".toList ++ ':' :: value) :: (d.laterLines ++ folded) ∧
      Field.Starts folded [] := by
  obtain ⟨first, -, htype⟩ := Lines.ofText_append_of_not_mem (p := "Content-Type: ".toList)
    (t := d.mediaType ++ [';']) (by simp) (by simp) (by simp)
  rw [← laterLines] at htype
  unfold writtenParams
  split
  · -- The boundary stands on a folded line of its own.
    let boundary := '\t' :: ("boundary=".toList ++ MediaType.quote d.boundary)
    have hl : Text.IsLine boundary := by simp [boundary, MediaType.isLine_quote]
    have hb : Lines.ofText boundary = [boundary] :=
      Lines.ofText_of_not_mem (List.cons_ne_nil _ _) fun hm => (hl _ hm).2 rfl
    have hlast : ("Content-Type: ".toList ++ (d.mediaType ++ [';'])).getLast? ≠ some '\n' := by
      rw [← List.append_assoc, List.getLast?_concat]
      simp
    have happ := Lines.ofText_append_lineBreak boundary (by simp) hlast
    rw [htype, hb] at happ
    refine ⟨' ' :: first, [boundary], ?_, ?_⟩
    · simpa [lineBreak, boundary] using happ
    · constructor <;> simp [boundary, Field.startedBy, Field.isFolded]
  · split
    · next hplain =>
      have hm : d.mediaType = plainText := by simpa using hplain
      have hnone : d.laterLines = [] := by rw [laterLines, hm]; rfl
      rw [hm, hnone]
      exact ⟨" text/plain; charset=\"UTF-8\"".toList, [], rfl, by simp, rfl⟩
    · refine ⟨' ' :: first, [], ?_, by simp, rfl⟩
      simpa using htype

def fieldNames (d : Descriptor) : List Text :=
  if d.version.isPositive then
    "mime-version".toList ::
      ((if d.mediaType.isEmpty then [] else ["content-type".toList]) ++
        if d.writtenEncoding?.isSome then ["content-transfer-encoding".toList] else [])
  else []

theorem starts_encodingLines (d : Descriptor) :
    Field.Starts ((d.writtenEncoding?.map ("Content-Transfer-Encoding: ".toList ++ ·)).toList.flatMap
      Lines.ofText)
      (if d.writtenEncoding?.isSome then ["content-transfer-encoding".toList] else []) := by
  have h := Field.starts_of_writes d.writes_encodingLines
  cases he : d.writtenEncoding? <;> rw [he] at h <;> exact h

theorem starts_lines {d : Descriptor} (hv : d.version.isPositive = true) :
    ∃ before after names others, d.lines.flatMap Lines.ofText = before ++ (d.laterLines ++ after) ∧
      Field.Starts before names ∧ Field.Starts after others ∧ names ++ others = d.fieldNames := by
  have hversion := Field.starts_of_writes (.cons (writes_version d.version) .nil)
  have hencoding := d.starts_encodingLines
  rw [lines, if_pos hv, fieldNames, if_pos hv, List.flatMap_append, List.flatMap_append]
  by_cases hm : d.mediaType = []
  · have hlater : d.laterLines = [] := by
      rw [laterLines, hm]
      rfl
    refine ⟨_, _, _, _, ?_, hversion, hencoding, ?_⟩
    · rw [hlater, hm]
      simp
    · rw [hm]
      rfl
  · obtain ⟨value, folded, htype, hfolded⟩ := d.ofText_typeLine
    have hname := Field.startedBy_of_name isName_type value
    have hfirst : Field.Starts ["Content-Type".toList ++ ':' :: value] ["content-type".toList] :=
      ⟨by simp, by simpa using hname⟩
    have hne : ¬ d.mediaType.isEmpty = true := by simpa using hm
    refine ⟨_, _, _, _, ?_, hversion.append hfirst, hfolded.append hencoding, ?_⟩
    · rw [if_neg hne, List.flatMap_singleton, List.flatMap_singleton, htype]
      simp
    · rw [if_neg hne]
      rfl

end MimeMail.Descriptor

namespace MimeMail.Header

def fieldNames (h : Header) : List Text :=
  h.descriptor.fieldNames ++
    ["date".toList, "to".toList, "from".toList, "subject".toList, "x-gmx-antispam".toList]

/-- A header whose text is read as the fields that it is written as, with one value each. -/
structure IsIntact (h : Header) : Prop where
  not_empty : ∀ line ∈ Lines.ofText h.write, line ≠ []
  counts : (FieldMap.ofText h.write).counts = h.fieldNames.map fun name => (name, 1)

def laterLines (h : Header) : List Text :=
  if h.descriptor.version.isPositive then h.descriptor.laterLines else []

theorem nodup_fieldNames (h : Header) : h.fieldNames.Nodup := by
  unfold fieldNames Descriptor.fieldNames
  split
  · split <;> split <;> decide +kernel
  · decide +kernel

theorem starts_shownLines (h : Header) :
    Field.Starts (h.shownLines.flatMap Lines.ofText)
      ["date".toList, "to".toList, "from".toList, "subject".toList, "x-gmx-antispam".toList] :=
  Field.starts_of_writes h.writes_shownLines

theorem ofText_write_eq (h : Header) : Lines.ofText h.write = h.lines.flatMap Lines.ofText := by
  rw [write_eq]
  exact Lines.ofText_join h.ends_of_mem_lines

theorem starts_write (h : Header) :
    ∃ before after names others, Lines.ofText h.write = before ++ (h.laterLines ++ after) ∧
      Field.Starts before names ∧ Field.Starts after others ∧ names ++ others = h.fieldNames := by
  have hshown := h.starts_shownLines
  rw [ofText_write_eq, lines_eq, List.flatMap_append, laterLines, fieldNames]
  by_cases hv : h.descriptor.version.isPositive = true
  · obtain ⟨before, after, names, others, hlines, hbefore, hafter, hnames⟩ :=
      Descriptor.starts_lines hv
    refine ⟨before, _, names, _, ?_, hbefore, hafter.append hshown, ?_⟩
    · rw [hlines, if_pos hv]
      simp only [List.append_assoc]
    · rw [← List.append_assoc, hnames]
  · refine ⟨[], _, [], _, ?_, ⟨by simp, rfl⟩, hshown, ?_⟩
    · rw [if_neg hv, Descriptor.lines, if_neg hv, List.flatMap_nil]
      simp only [List.nil_append]
    · rw [Descriptor.fieldNames, if_neg hv]

theorem isIntact_iff (h : Header) :
    h.IsIntact ↔
      ∀ line ∈ h.laterLines,
        line ≠ [] ∧ (Field.isFolded line = true ∨ Field.ofLine? line = none) := by
  obtain ⟨before, after, names, others, hlines, hbefore, hafter, hnames⟩ := h.starts_write
  simp only [← Field.startedBy_eq_nil_iff]
  constructor
  · rintro ⟨hempty, hcounts⟩
    have hnone : (h.laterLines.flatMap Field.startedBy).length = 0 := by
      -- The map has as many values as fields were read, and no more than names are meant.
      have hread := Field.names_ofText hempty
      have hsum := FieldMap.sum_counts (Field.ofText h.write)
      rw [← FieldMap.ofText, hcounts, List.map_map, ← List.length_map Field.name, hread, hlines,
        List.flatMap_append, List.flatMap_append, hbefore.names, hafter.names, ← hnames] at hsum
      have hones (ns : List Text) :
          (ns.map ((fun e : Text × ℕ => e.2) ∘ fun name => (name, 1))).sum = ns.length := by
        simp [Function.comp_def]
      simp only [hones, List.length_append] at hsum
      omega
    rw [List.length_eq_zero_iff, List.flatMap_eq_nil_iff] at hnone
    intro line hl
    refine ⟨hempty line ?_, hnone line hl⟩
    rw [hlines]
    simp [hl]
  · intro hlater
    have hstarts : Field.Starts h.laterLines [] :=
      ⟨fun line hl => (hlater line hl).1,
        List.flatMap_eq_nil_iff.mpr fun line hl => (hlater line hl).2⟩
    have hall := hbefore.append (hstarts.append hafter)
    rw [← hlines, List.nil_append, hnames] at hall
    have hread := (Field.names_ofText hall.ne_nil).trans hall.names
    refine ⟨hall.ne_nil, ?_⟩
    rw [FieldMap.ofText, FieldMap.counts_of_nodup, hread]
    rw [hread]
    exact h.nodup_fieldNames

theorem not_isIntact_type :
    ¬ IsIntact
      { descriptor := { version := ⟨0x3F800000⟩, mediaType := "text/html\nBcc: x".toList } } := by
  intro h
  exact absurd h.counts (by decide +kernel)

end MimeMail.Header
