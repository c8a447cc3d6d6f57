import MimeMail.Header.Write
import MimeMail.Proofs.Header.ParamSyntax

namespace MimeMail.MediaType

def escaped (c : Char) : Text := if c == '"' || c == '\\' then ['\\', c] else [c]

theorem quote_eq (t : Text) : quote t = '"' :: (Text.oneLine t).flatMap escaped ++ ['"'] := rfl

theorem isQuoting_escaped (t : Text) : IsQuoting (t.flatMap escaped) t := by
  induction t with
  | nil => exact .nil
  | cons c t ih =>
    rw [List.flatMap_cons, escaped]
    by_cases h : c = '"' ∨ c = '\\'
    · rw [if_pos (by simpa using h)]
      exact .escape ih
    · rw [if_neg (by simpa using h)]
      rw [not_or] at h
      exact .plain h.1 h.2 ih

theorem quoted?_append (t r : Text) : quoted? (t.flatMap escaped ++ '"' :: r) = some (t, r) :=
  quoted?_of_isQuoting (isQuoting_escaped t) r

structure IsType (t : Text) : Prop where
  shape : ∃ main sub, t = main ++ '/' :: sub ∧ isToken main = true ∧ isToken sub = true

structure IsEssence (t : Text) : Prop extends IsType t where
  lower : ∀ c ∈ t, c.isUpper = false

theorem ne_of_isSpecial {c d : Char} (hc : isSpecial c = false) (hd : isSpecial d = true) :
    c ≠ d := by
  rintro rfl
  rw [hc] at hd
  cases hd

theorem lt_of_isGraphic {c : Char} (h : Text.isGraphic c = true) : c.toNat < 128 := by
  simp only [Text.isGraphic, Bool.and_eq_true, decide_eq_true_eq] at h
  omega

theorem token_toLower : ∀ n < 128, Text.isGraphic (Char.ofNat n) = true →
    isSpecial (Char.ofNat n) = false → Text.isGraphic (Char.ofNat n).toLower = true ∧
      isSpecial (Char.ofNat n).toLower = false := by
  decide +kernel

theorem isToken_map_toLower {t : Text} (h : isToken t = true) :
    isToken (t.map Char.toLower) = true := by
  obtain ⟨hn, hg⟩ := isToken_iff.mp h
  rw [isToken_iff]
  refine ⟨by simpa using hn, fun c hc => ?_⟩
  obtain ⟨d, hd, rfl⟩ := List.mem_map.mp hc
  obtain ⟨hgraphic, hspecial⟩ := hg d hd
  have ht := token_toLower d.toNat (lt_of_isGraphic hgraphic)
  rw [Char.ofNat_toNat] at ht
  exact ht hgraphic hspecial

namespace IsType

variable {t : Text}

theorem cutAt (h : IsType t) :
    ∃ main sub, Text.cutAt ['/'] t = some (main, sub) ∧ isToken main = true ∧
      isToken sub = true := by
  obtain ⟨main, sub, rfl, hm, hs⟩ := h.shape
  refine ⟨main, sub, Text.cutAt_char_eq_some_iff.mpr ⟨rfl, fun hc => ?_⟩, hm, hs⟩
  exact absurd ((isToken_iff.mp hm).2 _ hc).2 (by decide)

theorem graphic (h : IsType t) : ∀ c ∈ t, Text.isGraphic c = true ∧ c ≠ ';' := by
  obtain ⟨main, sub, rfl, hm, hs⟩ := h.shape
  rw [isToken_iff] at hm hs
  intro c hc
  rcases List.mem_append.mp hc with hc | hc
  · exact ⟨(hm.2 c hc).1, ne_of_isSpecial (hm.2 c hc).2 rfl⟩
  · rcases List.mem_cons.mp hc with rfl | hc
    · decide
    · exact ⟨(hs.2 c hc).1, ne_of_isSpecial (hs.2 c hc).2 rfl⟩

theorem ne_nil (h : IsType t) : t ≠ [] := by
  obtain ⟨main, sub, rfl, -⟩ := h.shape
  simp

theorem isTrimmed (h : IsType t) : Text.IsTrimmed t :=
  Text.isTrimmed_of_isGraphic fun c hc => (h.graphic c hc).1

theorem isLine (h : IsType t) : Text.IsLine t :=
  Text.isLine_of_isGraphic fun c hc => (h.graphic c hc).1

theorem lt (h : IsType t) : ∀ c ∈ t, c.toNat < 128 :=
  fun c hc => lt_of_isGraphic (h.graphic c hc).1

theorem lowercase (h : IsType t) : IsEssence (Text.lowercase t) := by
  constructor
  · rw [Text.lowercase_eq_map h.lt]
    obtain ⟨main, sub, rfl, hm, hs⟩ := h.shape
    refine ⟨_, _, ?_, isToken_map_toLower hm, isToken_map_toLower hs⟩
    rw [List.map_append, List.map_cons]
    rfl
  · exact Text.isUpper_lowercase t

theorem read_append (h : IsType t) {r : Text}
    (hr : ∀ c ∈ r.takeWhile (· != ';'), Text.isBlank c = true) :
    read (t ++ r) = (readParams (r.dropWhile (· != ';'))).map fun params =>
      ⟨Text.lowercase t, firstOfEach [] params⟩ := by
  obtain ⟨htake, hdrop⟩ := cut_append r fun hc => (h.graphic _ hc).2 rfl
  obtain ⟨main, sub, hc, hm, hs⟩ := h.lowercase.cutAt
  have htrim : Text.trim t = t := h.isTrimmed
  rw [MediaType.read, htake, hdrop, Text.trim_append_blanks t hr, htrim, hc]
  simp [hm, hs]

theorem read (h : IsType t) (r : Text) :
    read (t ++ ';' :: r) = (readParams (';' :: r)).map fun params =>
      ⟨Text.lowercase t, firstOfEach [] params⟩ := h.read_append (by simp)

end IsType

theorem IsEssence.lowercase {t : Text} (h : IsEssence t) : Text.lowercase t = t :=
  Text.lowercase_eq_self h.lt h.lower

theorem namesMultipart_eq_false_iff {t : Text} :
    namesMultipart t = false ↔ ¬ "multipart".toList <:+: t := by
  rw [namesMultipart, ← Text.cutAt_eq_none_iff, Option.isSome_eq_false_iff, Option.isNone_iff_eq_none]

theorem namesMultipart_iff {t : Text} : namesMultipart t = true ↔ "multipart".toList <:+: t := by
  rw [← Bool.not_eq_false, namesMultipart_eq_false_iff, not_not]

theorem mem_firstOfEach {seen : List Text} {params : List (Text × Text)} {param : Text × Text}
    (h : param ∈ firstOfEach seen params) : param ∈ params := by
  induction params generalizing seen with
  | nil => cases h
  | cons p params ih =>
    obtain ⟨name, value⟩ := p
    rw [firstOfEach] at h
    split at h
    · exact List.mem_cons_of_mem _ (ih h)
    · rcases List.mem_cons.mp h with rfl | h
      · exact List.mem_cons_self
      · exact List.mem_cons_of_mem _ (ih h)

structure Denotes (t essence : Text) (params : List (Text × Text)) : Prop extends IsType essence where
  parts : ∃ type rest, t = type ++ rest ∧ ';' ∉ type ∧ StartsNext rest ∧
    Text.lowercase (Text.trim type) = essence ∧ IsParams rest params

theorem read_of_denotes {t essence : Text} {params : List (Text × Text)}
    (h : Denotes t essence params) : read t = .ok ⟨essence, firstOfEach [] params⟩ := by
  obtain ⟨type, rest, rfl, htype, hrest, hlower, hparams⟩ := h.parts
  obtain ⟨main, sub, hcut, hm, hs⟩ := h.cutAt
  obtain ⟨htake, hdrop⟩ := cut_append_rest htype hrest
  rw [read, htake, hdrop, hlower, hcut, readParams_eq_ok_iff.mpr hparams]
  simp only [hm, hs, Bool.not_true, Bool.or_self, Bool.false_eq_true, if_false]
  rfl

theorem exists_denotes {t : Text} {m : MediaType} (h : read t = .ok m) :
    ∃ params, Denotes t m.essence params ∧ m.params = firstOfEach [] params := by
  rw [read] at h
  split at h
  · cases h
  · next main sub hcut =>
    split at h
    · cases h
    · next htokens =>
      simp only [Bool.or_eq_true, Bool.not_eq_true', not_or, Bool.not_eq_false] at htokens
      cases hp : readParams (t.dropWhile (· != ';')) with
      | error fault => rw [hp] at h; cases h
      | ok params =>
        rw [hp] at h
        cases h
        have hessence := (Text.cutAt_char_eq_some_iff.mp hcut).1
        exact ⟨params, ⟨⟨main, sub, hessence, htokens⟩, _, _, List.takeWhile_append_dropWhile.symm,
          semicolon_not_mem_takeWhile t, startsNext_dropWhile t, rfl, readParams_eq_ok_iff.mp hp⟩, rfl⟩

theorem Denotes.isEssence {t essence : Text} {params : List (Text × Text)}
    (h : Denotes t essence params) : IsEssence essence := by
  obtain ⟨type, rest, -, -, -, rfl, -⟩ := h.parts
  exact ⟨h.toIsType, Text.isUpper_lowercase _⟩

theorem Denotes.subset {t essence : Text} {params : List (Text × Text)}
    (h : Denotes t essence params) : ∀ param ∈ params, param.2 ⊆ t := by
  obtain ⟨type, rest, rfl, -, -, -, hparams⟩ := h.parts
  exact fun param hparam => List.subset_append_of_subset_right _ (hparams.subset param hparam)

theorem isEssence_of_read {t : Text} {m : MediaType} (h : read t = .ok m) :
    IsEssence m.essence ∧ ∀ param ∈ m.params, ∀ c ∈ param.2, c ∈ t := by
  obtain ⟨params, hd, hm⟩ := exists_denotes h
  refine ⟨hd.isEssence, fun param hparam c hc => ?_⟩
  rw [hm] at hparam
  exact hd.subset param (mem_firstOfEach hparam) hc

theorem readParams_semicolon : readParams [';'] = .ok [] := by
  rw [readParams]
  rfl

theorem trimStart_quote (v : Text) : Text.trimStart (quote v) = quote v := by
  simp [Text.trimStart, quote_eq, Text.isBlank]

theorem value?_quoted (v r : Text) :
    value? ('"' :: (v.flatMap escaped ++ '"' :: r)) = some (v, r.dropWhile (· != ';')) := by
  rw [value?, quoted?_append]
  rfl

theorem value?_quote (v : Text) : value? (quote v) = some (Text.oneLine v, []) :=
  value?_quoted (Text.oneLine v) []

theorem readParams_nil : readParams [] = .ok [] := by
  rw [readParams]
  rfl

theorem isBlank_of_isToken {name : Text} (h : isToken name = true) :
    ∀ c ∈ name, Text.isBlank c = false :=
  fun c hc => Text.isBlank_of_isGraphic ((isToken_iff.mp h).2 c hc).1

theorem lowercase_of_isToken {name : Text} (h : isToken name = true) :
    Text.lowercase name = name.map Char.toLower :=
  Text.lowercase_eq_map fun c hc => lt_of_isGraphic ((isToken_iff.mp h).2 c hc).1

theorem readParams_cons {after name left r value rest : Text}
    (ha : ∀ c ∈ after, Text.isBlank c = true) (hn : isToken name = true)
    (hl : ∀ c ∈ left, Text.isBlank c = true) (hr : value? (Text.trimStart r) = some (value, rest)) :
    readParams (';' :: (after ++ (name ++ (left ++ '=' :: r)))) =
      (readParams rest).map fun params => (name.map Char.toLower, value) :: params := by
  have hgap : IsGap (';' :: after) := List.forall_mem_cons.mpr ⟨.inl rfl, fun c hc => .inr (ha c hc)⟩
  have hequals : '=' ∉ name ++ left := by
    rw [List.mem_append, not_or]
    exact ⟨fun hc => absurd ((isToken_iff.mp hn).2 _ hc).2 (by decide),
      fun hc => absurd (hl _ hc) (by decide)⟩
  have hlower : Text.lowercase (Text.trim (name ++ left)) = name.map Char.toLower := by
    have ht : Text.IsTrimmed name := Text.isTrimmed_of_no_blank (isBlank_of_isToken hn)
    rw [Text.trim_append_blanks name hl, ht, lowercase_of_isToken hn]
  have hread := readParams_gap_append hgap hequals (by rw [hlower]; exact isToken_map_toLower hn) hr
  rw [hlower, List.append_assoc] at hread
  exact hread

theorem readParams_param {name r value : Text} (hn : isToken name = true)
    (hu : ∀ c ∈ name, c.isUpper = false) (hr : value? (Text.trimStart r) = some (value, [])) :
    readParams (';' :: ' ' :: (name ++ '=' :: r)) = .ok [(name, value)] := by
  have hread := readParams_cons (List.forall_mem_singleton.mpr rfl : ∀ c ∈ [' '], Text.isBlank c = true)
    hn (List.forall_mem_nil _) hr
  rw [readParams_nil, Text.map_toLower_eq_self hu] at hread
  exact hread

theorem readParams_quote {name : Text} (v : Text) (hn : isToken name = true)
    (hu : ∀ c ∈ name, c.isUpper = false) :
    readParams (';' :: ' ' :: (name ++ '=' :: quote v)) = .ok [(name, Text.oneLine v)] := by
  apply readParams_param hn hu
  rw [trimStart_quote, value?_quote]

theorem value?_of_bare {v : Text} (r : Text) (hq : (v ++ r).head? ≠ some '"') (hs : ';' ∉ v)
    (ht : Text.IsTrimmed v) (hr : ∀ c ∈ r.takeWhile (· != ';'), Text.isBlank c = true) :
    value? (v ++ r) = some (v, r.dropWhile (· != ';')) := by
  have htrim : Text.trim v = v := ht
  obtain ⟨htake, hdrop⟩ := cut_append r hs
  rw [value?.eq_2 _ fun s hs => hq (by rw [hs]; rfl), htake, hdrop, Text.trim_append_blanks v hr,
    htrim]

def withParam (essence name v : Text) : Text := essence ++ ';' :: ' ' :: (name ++ '=' :: quote v)

theorem isLine_quote (v : Text) : Text.IsLine (quote v) := by
  rw [quote_eq, List.cons_append]
  simp only [Text.isLine_cons, Text.isLine_append]
  refine ⟨by simp, ?_, by simp⟩
  intro c hc
  obtain ⟨d, hd, hc⟩ := List.mem_flatMap.mp hc
  have hl := Text.isLine_oneLine v d hd
  unfold escaped at hc
  split at hc
  · rcases (by simpa using hc : c = '\\' ∨ c = d) with rfl | rfl
    · decide
    · exact hl
  · rw [List.mem_singleton.mp hc]
    exact hl

theorem getLast?_param (name v : Text) :
    ∀ c ∈ (name ++ '=' :: quote v).getLast?, Text.isBlank c = false := by
  have hq : name ++ '=' :: quote v =
      (name ++ '=' :: '"' :: (Text.oneLine v).flatMap escaped) ++ ['"'] := by simp [quote_eq]
  rw [hq, List.getLast?_concat]
  intro c hc
  cases hc
  rfl

namespace IsType

variable {t : Text}

theorem isTrimmed_withParam (h : IsType t) (name v : Text) :
    Text.IsTrimmed (withParam t name v) := by
  have hs : ';' :: ' ' :: (name ++ '=' :: quote v) = [';', ' '] ++ (name ++ '=' :: quote v) := rfl
  rw [withParam, hs]
  apply Text.isTrimmed_append h.ne_nil (by simp) h.isTrimmed.head
  rw [List.getLast?_append_of_ne_nil _ (by simp)]
  exact getLast?_param name v

theorem isLine_withParam (h : IsType t) {name : Text} (v : Text) (hn : Text.IsLine name) :
    Text.IsLine (withParam t name v) := by
  simp [withParam, h.isLine, hn, isLine_quote]

theorem read_withParam (h : IsType t) {name : Text} (v : Text) (hn : isToken name = true)
    (hu : ∀ c ∈ name, c.isUpper = false) :
    MediaType.read (withParam t name v) = .ok ⟨Text.lowercase t, [(name, Text.oneLine v)]⟩ := by
  rw [withParam, h.read, readParams_quote v hn hu]
  rfl

theorem read_bare (h : IsType t) {name v : Text} (hn : isToken name = true)
    (hu : ∀ c ∈ name, c.isUpper = false) (hq : v.head? ≠ some '"') (hs : ';' ∉ v)
    (ht : Text.IsTrimmed v) :
    MediaType.read (t ++ ';' :: ' ' :: (name ++ '=' :: v)) = .ok ⟨Text.lowercase t, [(name, v)]⟩ := by
  have hv : value? (Text.trimStart v) = some (v, []) := by
    rw [Text.trimStart, Text.dropWhile_eq_self ht.head]
    simpa using value?_of_bare [] (by simpa using hq) hs ht (by simp)
  rw [h.read, readParams_param hn hu hv]
  rfl

end IsType

end MimeMail.MediaType
