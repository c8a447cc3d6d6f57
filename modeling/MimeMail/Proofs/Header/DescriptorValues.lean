import MimeMail.Proofs.Header.Descriptors
import MimeMail.Proofs.Header.Lookup
import MimeMail.Proofs.Header.Parameters

namespace MimeMail.MediaType

def HasParam (t name v : Text) : Prop :=
  ∃ essence params, Denotes t essence params ∧ params.lookup name = some v

theorem find?_same_eq_lookup {name : Text} (hname : ∀ c ∈ name, c.isUpper = false)
    {params : List (Text × Text)} (h : ∀ param ∈ params, ∀ c ∈ param.1, c.isUpper = false) :
    (params.find? fun param => Text.same param.1 name).map (·.2) = params.lookup name := by
  induction params with
  | nil => rfl
  | cons param params ih =>
    rw [List.forall_mem_cons] at h
    have hsame : Text.same param.1 name = (name == param.1) := by
      rw [Bool.eq_iff_iff, FieldMap.same_iff_of_isUpper h.1, Text.map_toLower_eq_self hname,
        beq_iff_eq, eq_comm]
    rw [List.find?_cons, List.lookup_cons, ← hsame, ← ih h.2]
    cases Text.same param.1 name <;> rfl

theorem Denotes.param? {t essence name : Text} {params : List (Text × Text)}
    (h : Denotes t essence params) (hname : ∀ c ∈ name, c.isUpper = false) :
    param? ⟨essence, firstOfEach [] params⟩ name = params.lookup name := by
  obtain ⟨-, rest, -, -, -, -, hparams⟩ := h.parts
  rw [MediaType.param?, find?_firstOfEach (fun n => Text.same n name) params (List.forall_mem_nil _),
    find?_same_eq_lookup hname hparams.isUpper]

end MimeMail.MediaType

namespace MimeMail.Single

def value (x : Single) : ℚ := (if x.isNegative then -1 else 1) * x.parts.1 * 2 ^ x.parts.2

theorem parts_of_isZero {x : Single} (h : x.isZero = true) : x.parts.1 = 0 := by
  rw [isZero, beq_iff_eq] at h
  have hexponent : x.exponentField = 0 := by
    rw [exponentField]
    omega
  rw [parts, hexponent, fraction]
  simp only [beq_self_eq_true, if_true]
  omega

theorem value_nonneg {x : Single} (h : x.isNonneg = true) : 0 ≤ x.value := by
  rw [isNonneg, Bool.or_eq_true] at h
  rw [value]
  rcases h with h | h
  · rw [parts_of_isZero h]
    simp
  · simp only [isPositive, Bool.and_eq_true, Bool.not_eq_true'] at h
    rw [h.1.1]
    simp only [Bool.false_eq_true, if_false, one_mul]
    positivity

end MimeMail.Single

namespace MimeMail.Descriptor

section

variable {fields : FieldMap} {v : Text}

theorem mediaType?_of_denotes {essence : Text} {params : List (Text × Text)}
    (hv : fields.first? "content-type".toList = some v) (h : MediaType.Denotes v essence params) :
    fields.mediaType? = some ⟨essence, MediaType.firstOfEach [] params⟩ := by
  rw [FieldMap.mediaType?, hv, Option.bind_some, MediaType.ofText, MediaType.read_of_denotes h]
  rfl

theorem mediaType_of_denotes {essence : Text} {params : List (Text × Text)}
    (hv : fields.first? "content-type".toList = some v) (h : MediaType.Denotes v essence params) :
    (ofFields fields).mediaType = essence := mediaType_of_some (mediaType?_of_denotes hv h)

theorem boundary_of_denotes {essence : Text} {params : List (Text × Text)}
    (hv : fields.first? "content-type".toList = some v) (h : MediaType.Denotes v essence params) :
    (ofFields fields).boundary =
      if (ofFields fields).isMultipart then (params.lookup "boundary".toList).getD [] else [] := by
  have hparam := h.param? (by simp : ∀ c ∈ "boundary".toList, c.isUpper = false)
  have hm := mediaType?_of_denotes hv h
  rw [boundary_of_some hm, isMultipart_of_some hm, ← hparam]

theorem boundary_of_hasParam {b : Text} (hv : fields.first? "content-type".toList = some v)
    (h : MediaType.HasParam v "boundary".toList b) :
    (ofFields fields).boundary = if (ofFields fields).isMultipart then b else [] := by
  obtain ⟨essence, params, hd, hb⟩ := h
  rw [boundary_of_denotes hv hd, hb, Option.getD_some]

theorem exists_denotes (h : (ofFields fields).mediaType ≠ []) :
    ∃ v params, fields.first? "content-type".toList = some v ∧
      MediaType.Denotes v (ofFields fields).mediaType params := by
  rw [mediaType_ofFields] at h ⊢
  cases hm : fields.mediaType? with
  | none =>
    rw [hm] at h
    exact absurd rfl h
  | some m =>
    obtain ⟨v, hv, hread⟩ := read_of_mediaType hm
    obtain ⟨params, hd, -⟩ := MediaType.exists_denotes hread
    exact ⟨v, params, hv, hd⟩

theorem mediaType_ne_nil_of_isMultipart {d : Descriptor} (h : d.isMultipart = true) :
    d.mediaType ≠ [] := by
  intro hn
  rw [isMultipart, hn] at h
  cases h

theorem exists_hasParam (h : (ofFields fields).boundary ≠ []) :
    (ofFields fields).isMultipart = true ∧ ∃ v, fields.first? "content-type".toList = some v ∧
      MediaType.HasParam v "boundary".toList (ofFields fields).boundary := by
  have hmulti : (ofFields fields).isMultipart = true := by
    by_contra hm
    exact h ((isReadable_ofFields fields).boundary (by simpa using hm))
  obtain ⟨v, params, hv, hd⟩ := exists_denotes (mediaType_ne_nil_of_isMultipart hmulti)
  have hb := boundary_of_denotes hv hd
  rw [if_pos hmulti] at hb
  refine ⟨hmulti, v, hv, _, params, hd, ?_⟩
  cases hl : params.lookup "boundary".toList with
  | none =>
    rw [hl] at hb
    exact absurd hb h
  | some b =>
    rw [hb, hl]
    rfl

end

theorem encoding_eq_head (t : Text) :
    (ofFields (FieldMap.ofText t)).encoding =
      (FieldMap.valuesOf (Field.ofText t) "content-transfer-encoding".toList).head?.getD
        defaultEncoding := by
  rw [encoding_ofFields, FieldMap.first?_ofText t (by simp)]
  cases he : (FieldMap.valuesOf (Field.ofText t) "content-transfer-encoding".toList).head? with
  | none => rfl
  | some e =>
    obtain ⟨f, hf, -, rfl⟩ := FieldMap.mem_valuesOf.mp (List.mem_of_head? he)
    exact (Field.isRead_ofText f hf).isTrimmed

theorem ofText_values (t : Text) :
    let values := FieldMap.valuesOf (Field.ofText t)
    let types := values "content-type".toList
    let d := ofFields (FieldMap.ofText t)
    (d.mediaType = [] ∨ MediaType.IsEssence d.mediaType) ∧
      (∀ essence ≠ [], d.mediaType = essence ↔
        ∃ v ∈ types.head?, ∃ params, MediaType.Denotes v essence params) ∧
      (d.boundary ≠ [] ↔ "multipart".toList <:+: d.mediaType ∧
        ∃ v ∈ types.head?, ∃ b ≠ [], MediaType.HasParam v "boundary".toList b) ∧
      (d.boundary ≠ [] → ∀ v ∈ types.head?, ∀ b, MediaType.HasParam v "boundary".toList b →
        d.boundary = b) ∧
      Text.IsTrimmed d.encoding ∧
      d.encoding =
        (values "content-transfer-encoding".toList).head?.getD "quoted-printable".toList ∧
      d.version.isFinite = true ∧ 0 ≤ d.version.value := by
  intro values types d
  have htypes : (FieldMap.ofText t).first? "content-type".toList = types.head? :=
    FieldMap.first?_ofText t (by simp)
  have hmulti : d.isMultipart = true ↔ "multipart".toList <:+: d.mediaType :=
    MediaType.namesMultipart_iff
  have hversion : d.version.isFinite = true ∧ d.version.isNonneg = true := by
    simpa using version_finite (FieldMap.ofText t)
  refine ⟨(isReadable_ofFields _).mediaType, fun essence he => ⟨?_, ?_⟩, ⟨fun hb => ?_, ?_⟩, ?_,
    (encoding_ofText t).1, encoding_eq_head t, hversion.1, Single.value_nonneg hversion.2⟩
  · rintro rfl
    obtain ⟨v, params, hv, hd⟩ := exists_denotes he
    exact ⟨v, htypes.symm.trans hv, params, hd⟩
  · rintro ⟨v, hv, params, hd⟩
    exact mediaType_of_denotes (htypes.trans hv) hd
  · obtain ⟨hm, v, hv, hparam⟩ := exists_hasParam hb
    exact ⟨hmulti.mp hm, v, htypes.symm.trans hv, _, hb, hparam⟩
  · rintro ⟨hm, v, hv, b, hne, hparam⟩
    have hb := boundary_of_hasParam (htypes.trans hv) hparam
    rw [if_pos (hmulti.mpr hm)] at hb
    exact hb.trans_ne hne
  · intro hne v hv b hparam
    have hb := boundary_of_hasParam (htypes.trans hv) hparam
    rwa [if_pos (exists_hasParam hne).1] at hb

end MimeMail.Descriptor
