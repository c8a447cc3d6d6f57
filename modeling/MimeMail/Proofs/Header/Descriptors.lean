import MimeMail.Header.Read
import MimeMail.Proofs.Header.Fields
import MimeMail.Proofs.Header.MediaTypes
import MimeMail.Proofs.Text.Digits

namespace MimeMail.Single

theorem isGraphic_of_isDigit {c : Char} (h : c.isDigit = true) : Text.isGraphic c = true := by
  have := Digits.toNat_of_isDigit h
  simp only [Text.isGraphic, Bool.and_eq_true, decide_eq_true_eq]
  omega

theorem mem_tenths {x : Single} {c : Char} (h : c ∈ x.tenths) :
    Text.isGraphic c = true ∧ c ≠ '(' := by
  have hsign : ∀ c ∈ x.signText, Text.isGraphic c = true ∧ c ≠ '(' := by
    unfold signText
    split <;> simp [Text.isGraphic]
  have hdigits (n : ℕ) : ∀ c ∈ Digits.ofNat n, Text.isGraphic c = true ∧ c ≠ '(' := by
    intro c hc
    have hd := Digits.isDigit_ofNat n c hc
    refine ⟨isGraphic_of_isDigit hd, ?_⟩
    rintro rfl
    cases hd
  unfold tenths at h
  split at h
  · rcases (by simpa using h : c = 'N' ∨ c = 'a' ∨ c = 'N') with rfl | rfl | rfl <;> decide
  · split at h
    · rcases List.mem_append.mp h with h | h
      · exact hsign c h
      · rcases (by simpa using h : c = 'i' ∨ c = 'n' ∨ c = 'f') with rfl | rfl | rfl <;> decide
    · simp only [List.mem_append, List.mem_cons] at h
      rcases h with (h | h) | rfl | h
      · exact hsign c h
      · exact hdigits _ c h
      · decide
      · exact hdigits _ c h

theorem isLine_tenths (x : Single) : Text.IsLine x.tenths :=
  Text.isLine_of_isGraphic fun _ hc => (mem_tenths hc).1

theorem isTrimmed_tenths (x : Single) : Text.IsTrimmed x.tenths :=
  Text.isTrimmed_of_isGraphic fun _ hc => (mem_tenths hc).1

end MimeMail.Single

namespace MimeMail.Descriptor

def typeValue (d : Descriptor) : Text :=
  if d.isMultipart then MediaType.withParam d.mediaType "boundary".toList d.boundary
  else if d.mediaType == plainText then
    MediaType.withParam d.mediaType "charset".toList defaultCharset
  else d.mediaType ++ [';']

def fields (d : Descriptor) : List Field :=
  if d.version.isPositive then
    ⟨"mime-version".toList, d.version.tenths⟩ ::
      ((if d.mediaType.isEmpty then [] else [⟨"content-type".toList, d.typeValue⟩]) ++
        (d.writtenEncoding?.map (⟨"content-transfer-encoding".toList, ·⟩)).toList)
  else []

theorem name_of_mem_fields {d : Descriptor} {f : Field} (h : f ∈ d.fields) :
    f.name = "mime-version".toList ∨ f.name = "content-type".toList ∨
      f.name = "content-transfer-encoding".toList := by
  unfold fields at h
  split at h
  · rcases List.mem_cons.mp h with rfl | h
    · exact .inl rfl
    · rcases List.mem_append.mp h with h | h
      · split at h
        · cases h
        · rw [List.mem_singleton.mp h]
          exact .inr (.inl rfl)
      · obtain ⟨e, -, rfl⟩ := Option.map_eq_some_iff.mp (Option.mem_toList.mp h)
        exact .inr (.inr rfl)
  · cases h

structure IsReadable (d : Descriptor) : Prop where
  mediaType : d.mediaType = [] ∨ MediaType.IsEssence d.mediaType
  boundary : d.isMultipart = false → d.boundary = []

theorem writtenEncoding?_eq_some {d : Descriptor} {e : Text} (h : d.writtenEncoding? = some e) :
    Text.IsTrimmed e ∧ Text.IsLine e := by
  unfold writtenEncoding? at h
  dsimp only at h
  split at h
  · cases h
  · split at h
    · cases h
    · cases h
      exact ⟨(Text.isTrimmed_trim _).oneLine, Text.isLine_oneLine _⟩

theorem isName_type : Field.IsName "Content-Type".toList "content-type".toList :=
  ⟨by simp, by simp, rfl, rfl, by simp⟩

theorem writes_withParam {e name : Text} (v : Text) (he : MediaType.IsType e)
    (hn : Text.IsLine name) :
    Field.Writes ("Content-Type".toList ++ ':' :: ' ' :: MediaType.withParam e name v)
      ⟨"content-type".toList, MediaType.withParam e name v⟩ :=
  Field.writes_trimmed isName_type (he.isLine_withParam v hn) (he.isTrimmed_withParam name v)

theorem writes_type {d : Descriptor} (h : MediaType.IsEssence d.mediaType) :
    Field.Writes ("Content-Type: ".toList ++ d.mediaType ++ ';' :: d.writtenParams)
      ⟨"content-type".toList, d.typeValue⟩ := by
  have hend : Text.IsTrimmed (d.mediaType ++ [';']) :=
    Text.isTrimmed_append h.ne_nil (by simp) h.isTrimmed.head (by simp [Text.isBlank])
  have hl (s : Text) : "Content-Type: ".toList ++ d.mediaType ++ s =
      "Content-Type".toList ++ ':' :: ' ' :: (d.mediaType ++ s) := by
    simp
  rw [hl]
  unfold writtenParams typeValue
  split
  · -- The boundary stands on a folded line, which the value takes in after a space.
    have hb : Text.IsTrimmed ("boundary".toList ++ '=' :: MediaType.quote d.boundary) :=
      Text.isTrimmed_append (by simp) (by simp) (by simp [Text.isBlank])
        (MediaType.getLast?_param [] d.boundary)
    have hw := Field.writes_folded (v := d.mediaType ++ [';'])
      (m := "boundary".toList ++ '=' :: MediaType.quote d.boundary) isName_type
      (by simp [h.isLine]) (by simp [MediaType.isLine_quote])
    rw [hend, hb] at hw
    simpa [Field.extend, lineBreak, MediaType.withParam] using hw
  · split
    · have hc : Text.IsLine "charset".toList := by simp
      exact writes_withParam defaultCharset h.toIsType hc
    · exact Field.writes_trimmed isName_type (by simp [h.isLine]) hend

theorem isName_version : Field.IsName "MIME-Version".toList "mime-version".toList :=
  ⟨by simp, by simp, rfl, rfl, by simp⟩

theorem writes_version (x : Single) :
    Field.Writes ("MIME-Version: ".toList ++ x.tenths) ⟨"mime-version".toList, x.tenths⟩ := by
  have htext : "MIME-Version: ".toList ++ x.tenths =
      "MIME-Version".toList ++ ':' :: ' ' :: x.tenths := by simp
  rw [htext]
  exact Field.writes_trimmed isName_version x.isLine_tenths x.isTrimmed_tenths

theorem writes_encoding {e : Text} (ht : Text.IsTrimmed e) (hl : Text.IsLine e) :
    Field.Writes ("Content-Transfer-Encoding: ".toList ++ e)
      ⟨"content-transfer-encoding".toList, e⟩ := by
  have hname : Field.IsName "Content-Transfer-Encoding".toList
      "content-transfer-encoding".toList := ⟨by simp, by simp, rfl, rfl, by simp⟩
  have htext : "Content-Transfer-Encoding: ".toList ++ e =
      "Content-Transfer-Encoding".toList ++ ':' :: ' ' :: e := by simp
  rw [htext]
  exact Field.writes_trimmed hname hl ht

theorem getLast?_typeLine (d : Descriptor) :
    ("Content-Type: ".toList ++ d.mediaType ++ ';' :: d.writtenParams).getLast? ≠ some '\n' := by
  unfold writtenParams
  split
  · have hq : "Content-Type: ".toList ++ d.mediaType ++
        ';' :: ("\r\n\tboundary=".toList ++ MediaType.quote d.boundary) =
        ("Content-Type: ".toList ++ d.mediaType ++ ';' :: ("\r\n\tboundary=".toList ++
          '"' :: (Text.oneLine d.boundary).flatMap MediaType.escaped)) ++ ['"'] := by
      simp [MediaType.quote_eq]
    rw [hq, List.getLast?_concat]
    simp
  · split
    · rw [List.getLast?_append_of_ne_nil _ (List.cons_ne_nil _ _)]
      decide +kernel
    · rw [List.getLast?_concat]
      simp

theorem writes_encodingLines (d : Descriptor) :
    List.Forall₂ Field.Writes
      (d.writtenEncoding?.map ("Content-Transfer-Encoding: ".toList ++ ·)).toList
      (d.writtenEncoding?.map (⟨"content-transfer-encoding".toList, ·⟩)).toList := by
  cases he : d.writtenEncoding? with
  | none => exact .nil
  | some e =>
    obtain ⟨ht, hl⟩ := writtenEncoding?_eq_some he
    exact .cons (writes_encoding ht hl) .nil

theorem writes_lines {d : Descriptor} (h : d.mediaType = [] ∨ MediaType.IsEssence d.mediaType) :
    List.Forall₂ Field.Writes d.lines d.fields := by
  unfold lines fields
  split
  · apply List.Forall₂.cons (writes_version _)
    apply List.rel_append _ d.writes_encodingLines
    rcases h with h | h
    · simp [h]
    · rw [if_neg (by simpa using h.ne_nil), if_neg (by simpa using h.ne_nil)]
      exact .cons (writes_type h) .nil
  · exact .nil

def rewritten (d : Descriptor) : Descriptor :=
  if d.version.isPositive then
    { version := readVersion d.version.tenths
      mediaType := d.mediaType
      encoding := d.writtenEncoding?.getD defaultEncoding
      boundary := Text.oneLine d.boundary }
  else {}

theorem read_typeValue {d : Descriptor} (h : MediaType.IsEssence d.mediaType) :
    ∃ params, MediaType.read d.typeValue = .ok ⟨d.mediaType, params⟩ ∧
      (d.isMultipart = true → params = [("boundary".toList, Text.oneLine d.boundary)]) := by
  have hl := h.lowercase
  unfold typeValue
  split
  · have hb : MediaType.isToken "boundary".toList = true := rfl
    have hr := h.read_withParam d.boundary hb (by simp)
    rw [hl] at hr
    exact ⟨_, hr, fun _ => rfl⟩
  · next hm =>
    split
    · have hc : MediaType.isToken "charset".toList = true := rfl
      have hr := h.read_withParam defaultCharset hc (by simp)
      rw [hl] at hr
      exact ⟨_, hr, fun hn => absurd hn hm⟩
    · refine ⟨[], ?_, fun hn => absurd hn hm⟩
      rw [h.read, MediaType.readParams_semicolon, hl]
      rfl

def IsApart (fields : List Field) : Prop :=
  ∀ f ∈ fields, Text.same f.name "mime-version".toList = false ∧
    Text.same f.name "content-type".toList = false ∧
    Text.same f.name "content-transfer-encoding".toList = false

theorem first?_append_apart {fields rest : List Field} {q : Text}
    (h : ∀ f ∈ rest, Text.same f.name q = false) :
    (FieldMap.ofFields (fields ++ rest)).first? q = (FieldMap.ofFields fields).first? q := by
  have hn : rest.find? (fun f => Text.same f.name q) = none := by
    rw [List.find?_eq_none]
    intro f hf
    simp [h f hf]
  rw [FieldMap.first?_ofFields, FieldMap.first?_ofFields, List.find?_append, hn, Option.or_none]

theorem ofFields_append_apart {fields rest : List Field} (h : IsApart rest) :
    ofFields (FieldMap.ofFields (fields ++ rest)) = ofFields (FieldMap.ofFields fields) := by
  unfold ofFields FieldMap.mediaType?
  rw [first?_append_apart fun f hf => (h f hf).1, first?_append_apart fun f hf => (h f hf).2.1,
    first?_append_apart fun f hf => (h f hf).2.2]

theorem first?_version (d : Descriptor) :
    (FieldMap.ofFields d.fields).first? "mime-version".toList =
      if d.version.isPositive then some d.version.tenths else none := by
  have hs : Text.same "mime-version".toList "mime-version".toList = true := rfl
  rw [FieldMap.first?_ofFields]
  unfold fields
  cases d.version.isPositive with
  | true => simp only [List.find?_cons, hs, if_true, Option.map_some]
  | false => rfl

theorem first?_type (d : Descriptor) :
    (FieldMap.ofFields d.fields).first? "content-type".toList =
      if d.version.isPositive && !d.mediaType.isEmpty then some d.typeValue else none := by
  rw [FieldMap.first?_ofFields]
  unfold fields
  cases d.version.isPositive <;> cases d.mediaType.isEmpty <;> cases d.writtenEncoding? <;>
    simp [Text.same]

theorem first?_encoding (d : Descriptor) :
    (FieldMap.ofFields d.fields).first? "content-transfer-encoding".toList =
      if d.version.isPositive then d.writtenEncoding? else none := by
  rw [FieldMap.first?_ofFields]
  unfold fields
  cases d.version.isPositive <;> cases d.mediaType.isEmpty <;> cases d.writtenEncoding? <;>
    simp [Text.same]

theorem ofFields_fields {d : Descriptor} (h : d.IsReadable) :
    ofFields (FieldMap.ofFields d.fields) = d.rewritten := by
  rw [ofFields, FieldMap.mediaType?, first?_version, first?_type, first?_encoding, rewritten]
  by_cases hv : d.version.isPositive
  · have he : (d.writtenEncoding?.map Text.trim).getD defaultEncoding =
        d.writtenEncoding?.getD defaultEncoding := by
      cases he : d.writtenEncoding? with
      | none => rfl
      | some e => exact (writtenEncoding?_eq_some he).1
    rcases h.mediaType with hm | hm
    · have hb : d.boundary = [] := by
        apply h.boundary
        rw [isMultipart, hm]
        rfl
      simp only [hv, hm, hb, he, if_true, List.isEmpty_nil, Bool.not_true, Bool.and_false,
        Bool.false_eq_true, if_false, Option.map_some, Option.getD_some, Option.bind_none,
        Option.map_none, Option.getD_none, Option.filter_none]
      rfl
    · obtain ⟨params, hread, hparams⟩ := read_typeValue hm
      have ht : (MediaType.ofText d.typeValue).toOption = some ⟨d.mediaType, params⟩ := by
        rw [MediaType.ofText, hread]
        rfl
      have hn : d.mediaType.isEmpty = false := by simpa using hm.ne_nil
      simp only [hv, hn, he, ht, if_true, Bool.not_false, Bool.and_true, Option.map_some,
        Option.getD_some, Option.bind_some]
      by_cases hmulti : d.isMultipart
      · have hp : MediaType.param? ⟨d.mediaType, params⟩ "boundary".toList =
            some (Text.oneLine d.boundary) := by
          rw [hparams hmulti]
          rfl
        have hf : MediaType.isMultipart ⟨d.mediaType, params⟩ = true := hmulti
        rw [Option.filter_some, if_pos hf, Option.bind_some, hp, Option.getD_some]
      · have hf : ¬ MediaType.isMultipart ⟨d.mediaType, params⟩ = true := hmulti
        rw [Option.filter_some, if_neg hf, h.boundary (by simpa using hmulti)]
        rfl
  · simp only [hv, Bool.false_and, Bool.false_eq_true, if_false, Option.map_none,
      Option.getD_none, Option.bind_none, Option.filter_none]

theorem read_of_mediaType {fields : FieldMap} {m : MediaType} (h : fields.mediaType? = some m) :
    ∃ v, fields.first? "content-type".toList = some v ∧ MediaType.read v = .ok m := by
  obtain ⟨v, hv, hm⟩ := Option.bind_eq_some_iff.mp h
  refine ⟨v, hv, ?_⟩
  rw [MediaType.ofText] at hm
  cases hr : MediaType.read v with
  | error fault => rw [hr] at hm; cases hm
  | ok n => rw [hr] at hm; cases hm; rfl

theorem mediaType_ofFields (fields : FieldMap) :
    (ofFields fields).mediaType = (fields.mediaType?.map MediaType.essence).getD [] := rfl

theorem boundary_ofFields (fields : FieldMap) :
    (ofFields fields).boundary = ((fields.mediaType?.filter MediaType.isMultipart).bind
      (·.param? "boundary".toList)).getD [] := rfl

section

variable {fields : FieldMap} {m : MediaType} (hm : fields.mediaType? = some m)
include hm

theorem mediaType_of_some : (ofFields fields).mediaType = m.essence := by
  rw [mediaType_ofFields, hm]
  rfl

theorem isMultipart_of_some : (ofFields fields).isMultipart = m.isMultipart := by
  rw [isMultipart, mediaType_of_some hm, MediaType.isMultipart]

theorem boundary_of_some :
    (ofFields fields).boundary =
      if m.isMultipart then (m.param? "boundary".toList).getD [] else [] := by
  rw [boundary_ofFields, hm, Option.filter_some]
  split <;> rfl

end

theorem isReadable_ofFields (fields : FieldMap) : (ofFields fields).IsReadable := by
  cases hm : fields.mediaType? with
  | none =>
    have ht := mediaType_ofFields fields
    have hb := boundary_ofFields fields
    rw [hm] at ht hb
    exact ⟨.inl ht, fun _ => hb⟩
  | some m =>
    obtain ⟨v, -, hr⟩ := read_of_mediaType hm
    constructor
    · rw [mediaType_of_some hm]
      exact .inr (MediaType.isEssence_of_read hr).1
    · intro h
      rw [isMultipart_of_some hm] at h
      rw [boundary_of_some hm, if_neg (by simp [h])]

theorem isReadable_default : IsReadable {} := ⟨.inl rfl, fun _ => rfl⟩

theorem newline_not_mem_boundary (t : Text) : '\n' ∉ (ofFields (FieldMap.ofText t)).boundary := by
  rw [boundary_ofFields]
  cases hm : (FieldMap.ofText t).mediaType? with
  | none => exact List.not_mem_nil
  | some m =>
    obtain ⟨v, hv, hr⟩ := read_of_mediaType hm
    have hl := FieldMap.newline_not_mem_first hv
    rw [Option.filter_some]
    split
    · rw [Option.bind_some]
      cases hp : m.param? "boundary".toList with
      | none => exact List.not_mem_nil
      | some b =>
        obtain ⟨param, hf, rfl⟩ := Option.map_eq_some_iff.mp hp
        exact fun hn =>
          hl ((MediaType.isEssence_of_read hr).2 param (List.mem_of_find?_eq_some hf) _ hn)
    · exact List.not_mem_nil

theorem encoding_ofFields (fields : FieldMap) :
    (ofFields fields).encoding =
      ((fields.first? "content-transfer-encoding".toList).map Text.trim).getD defaultEncoding :=
  rfl

theorem defaultEncoding_plain : Text.IsTrimmed defaultEncoding ∧ '\n' ∉ defaultEncoding := by
  unfold defaultEncoding
  exact ⟨rfl, by simp⟩

theorem encoding_ofText (t : Text) :
    Text.IsTrimmed (ofFields (FieldMap.ofText t)).encoding ∧
      '\n' ∉ (ofFields (FieldMap.ofText t)).encoding := by
  rw [encoding_ofFields]
  cases he : (FieldMap.ofText t).first? "content-transfer-encoding".toList with
  | none => exact defaultEncoding_plain
  | some e =>
    refine ⟨Text.isTrimmed_trim e, fun hn => ?_⟩
    exact FieldMap.newline_not_mem_first he (Text.mem_of_mem_trim hn)

theorem readVersion_finite (t : Text) :
    ((readVersion t).isFinite && (readVersion t).isNonneg) = true := by
  rw [readVersion]
  split
  · split
    · next hx => exact hx
    · rfl
  · rfl

theorem version_finite (fields : FieldMap) :
    ((ofFields fields).version.isFinite && (ofFields fields).version.isNonneg) = true := by
  have hv : (ofFields fields).version =
      ((fields.first? "mime-version".toList).map readVersion).getD Single.zero := rfl
  rw [hv]
  cases fields.first? "mime-version".toList with
  | none => rfl
  | some v => exact readVersion_finite v

theorem readVersion_tenths {x : Single} (hx : (x.isFinite && x.isNonneg) = true)
    (h : Single.read? x.tenths = some x) : readVersion x.tenths = x := by
  have ht : x.tenths.takeWhile (· != '(') = x.tenths := by
    rw [List.takeWhile_eq_self_iff]
    intro c hc
    simpa using (Single.mem_tenths hc).2
  rw [readVersion, ht, x.isTrimmed_tenths, h]
  simp [hx]

end MimeMail.Descriptor
