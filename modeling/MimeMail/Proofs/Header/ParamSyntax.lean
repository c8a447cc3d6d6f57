import MimeMail.Header.MediaType
import MimeMail.Proofs.Text.Lowercase
import MimeMail.Proofs.Text.Marks

/-!
The syntax of the parameters of a media type. Parameters are read from exactly the texts that have
this syntax: gaps of semicolons and blanks, names that are tokens in lower case, and values that are
quoted strings or end at the next semicolon.
-/

namespace MimeMail.MediaType

theorem isToken_iff {t : Text} :
    isToken t = true ↔ t ≠ [] ∧ ∀ c ∈ t, Text.isGraphic c = true ∧ isSpecial c = false := by
  simp [isToken]

inductive IsQuoting : Text → Text → Prop
  | nil : IsQuoting [] []
  | plain {c : Char} {s v : Text} (hquote : c ≠ '"') (hescape : c ≠ '\\') (h : IsQuoting s v) :
      IsQuoting (c :: s) (c :: v)
  | escape {c : Char} {s v : Text} (h : IsQuoting s v) : IsQuoting ('\\' :: c :: s) (c :: v)

theorem IsQuoting.subset {s v : Text} (h : IsQuoting s v) : v ⊆ s := by
  induction h with
  | nil => exact List.Subset.refl []
  | plain _ _ _ ih => exact List.cons_subset_cons _ ih
  | escape _ ih => exact List.subset_cons_of_subset _ (List.cons_subset_cons _ ih)

theorem quoted?_of_isQuoting {s v : Text} (h : IsQuoting s v) (rest : Text) :
    quoted? (s ++ '"' :: rest) = some (v, rest) := by
  induction h with
  | nil => rfl
  | plain hquote hescape _ ih => simp [quoted?, hescape, ih]
  | escape _ ih => simp [quoted?, ih]

theorem exists_isQuoting {t v rest : Text} (h : quoted? t = some (v, rest)) :
    ∃ s, IsQuoting s v ∧ t = s ++ '"' :: rest := by
  fun_induction quoted? t generalizing v with
  | case1 => cases h
  | case2 => cases h
  | case3 r =>
    cases h
    exact ⟨[], .nil, rfl⟩
  | case4 c r ih =>
    obtain ⟨⟨v, r⟩, hq, hv⟩ := Option.map_eq_some_iff.mp h
    cases hv
    obtain ⟨s, hs, rfl⟩ := ih hq
    exact ⟨'\\' :: c :: s, .escape hs, rfl⟩
  | case5 c r _ hquote hescape ih =>
    obtain ⟨⟨v, r⟩, hq, hv⟩ := Option.map_eq_some_iff.mp h
    cases hv
    obtain ⟨s, hs, rfl⟩ := ih hq
    refine ⟨c :: s, .plain hquote ?_ hs, rfl⟩
    rintro rfl
    cases s <;> exact hescape _ _ rfl rfl

/-- What is written for a value, and the value. What follows the closing quote is passed over. -/
inductive IsValue : Text → Text → Prop
  | quoted {s v after : Text} (h : IsQuoting s v) (hafter : ';' ∉ after) :
      IsValue ('"' :: (s ++ '"' :: after)) v
  | bare {s : Text} (hhead : ∀ c ∈ s.head?, c ≠ '"' ∧ Text.isBlank c = false) (hs : ';' ∉ s) :
      IsValue s (Text.trim s)

theorem IsValue.subset {s v : Text} (h : IsValue s v) : v ⊆ s := by
  cases h with
  | quoted h => exact List.subset_cons_of_subset _ (List.subset_append_of_subset_left _ h.subset)
  | bare => exact fun c hc => Text.mem_of_mem_trim hc

def StartsNext (t : Text) : Prop := ∀ c ∈ t.head?, c = ';'

theorem startsNext_dropWhile (t : Text) : StartsNext (t.dropWhile (· != ';')) := by
  intro c hc
  simpa using Text.head?_dropWhile c hc

theorem semicolon_not_mem_takeWhile (t : Text) : ';' ∉ t.takeWhile (· != ';') :=
  fun hm => by simpa using List.mem_takeWhile_imp hm

theorem cut_append {s : Text} (r : Text) (hs : ';' ∉ s) :
    (s ++ r).takeWhile (· != ';') = s ++ r.takeWhile (· != ';') ∧
      (s ++ r).dropWhile (· != ';') = r.dropWhile (· != ';') := by
  have hpos : ∀ c ∈ s, (c != ';') = true := fun c hc => bne_iff_ne.mpr (ne_of_mem_of_not_mem hc hs)
  exact ⟨List.takeWhile_append_of_pos hpos, List.dropWhile_append_of_pos hpos⟩

theorem cut_append_rest {s rest : Text} (hs : ';' ∉ s) (hrest : StartsNext rest) :
    (s ++ rest).takeWhile (· != ';') = s ∧ (s ++ rest).dropWhile (· != ';') = rest := by
  obtain ⟨htake, hdrop⟩ := cut_append rest hs
  rw [htake, hdrop]
  cases rest with
  | nil => simp
  | cons c rest => simp [hrest c rfl]

theorem value?_of_isValue {s v rest : Text} (h : IsValue s v) (hrest : StartsNext rest) :
    value? (s ++ rest) = some (v, rest) := by
  cases h with
  | @quoted s _ after h hafter =>
    have hq := quoted?_of_isQuoting h (after ++ rest)
    have htext : '"' :: (s ++ '"' :: after) ++ rest = '"' :: (s ++ '"' :: (after ++ rest)) := by simp
    rw [htext, value?, hq]
    exact congrArg (fun r => some (v, r)) (cut_append_rest hafter hrest).2
  | bare hhead hs =>
    have hquote : ∀ r, s ++ rest ≠ '"' :: r := by
      intro r hr
      cases s with
      | nil =>
        rw [List.nil_append] at hr
        rw [hr] at hrest
        cases hrest '"' rfl
      | cons c s => exact (hhead c rfl).1 (List.cons.inj hr).1
    obtain ⟨htake, hdrop⟩ := cut_append_rest hs hrest
    rw [value?.eq_2 _ hquote, htake, hdrop]

theorem exists_isValue {t v rest : Text} (ht : ∀ c ∈ t.head?, Text.isBlank c = false)
    (h : value? t = some (v, rest)) : ∃ s, IsValue s v ∧ StartsNext rest ∧ t = s ++ rest := by
  unfold value? at h
  split at h
  · next r =>
    obtain ⟨⟨v, r⟩, hq, hv⟩ := Option.map_eq_some_iff.mp h
    cases hv
    obtain ⟨s, hs, rfl⟩ := exists_isQuoting hq
    refine ⟨_, .quoted hs (semicolon_not_mem_takeWhile r), startsNext_dropWhile r, ?_⟩
    rw [List.cons_append, List.append_assoc, List.cons_append, List.takeWhile_append_dropWhile]
  · next hquote =>
    cases h
    refine ⟨_, .bare ?_ (semicolon_not_mem_takeWhile t), startsNext_dropWhile t,
      List.takeWhile_append_dropWhile.symm⟩
    intro c hc
    have hhead : c ∈ t.head? := by
      rw [← List.takeWhile_append_dropWhile (p := (· != ';')) (l := t), List.head?_append,
        Option.mem_def.mp hc]
      rfl
    refine ⟨?_, ht c hhead⟩
    rintro rfl
    obtain ⟨r, hr⟩ := List.head?_eq_some_iff.mp hhead
    exact hquote r hr

def IsGap (t : Text) : Prop := ∀ c ∈ t, c = ';' ∨ Text.isBlank c = true

theorem dropWhile_gap {gap : Text} (t : Text) (h : IsGap gap) :
    (gap ++ t).dropWhile (fun c => c == ';' || Text.isBlank c) =
      t.dropWhile fun c => c == ';' || Text.isBlank c :=
  List.dropWhile_append_of_pos fun c hc => by simpa using h c hc

theorem exists_isGap (t : Text) :
    ∃ gap, IsGap gap ∧ t = gap ++ t.dropWhile fun c => c == ';' || Text.isBlank c := by
  refine ⟨t.takeWhile fun c => c == ';' || Text.isBlank c, fun c hc => ?_, ?_⟩
  · simpa using List.mem_takeWhile_imp hc
  · exact List.takeWhile_append_dropWhile.symm

inductive IsParams : Text → List (Text × Text) → Prop
  | nil {gap : Text} (hgap : IsGap gap) : IsParams gap []
  | cons {gap name blanks s v rest : Text} {params : List (Text × Text)} (hgap : IsGap gap)
      (hname : '=' ∉ name) (htoken : isToken (Text.lowercase (Text.trim name)) = true)
      (hblanks : ∀ c ∈ blanks, Text.isBlank c = true) (hvalue : IsValue s v)
      (hrest : StartsNext rest) (h : IsParams rest params) :
      IsParams (gap ++ (name ++ '=' :: (blanks ++ (s ++ rest))))
        ((Text.lowercase (Text.trim name), v) :: params)

theorem IsParams.subset {t : Text} {params : List (Text × Text)} (h : IsParams t params) :
    ∀ param ∈ params, param.2 ⊆ t := by
  induction h with
  | nil => exact List.forall_mem_nil _
  | @cons gap name blanks s v rest params _ _ _ _ hvalue _ _ ih =>
    have hpart (p : Text) (hp : p ⊆ s ++ rest) :
        p ⊆ gap ++ (name ++ '=' :: (blanks ++ (s ++ rest))) :=
      List.subset_append_of_subset_right _ (List.subset_append_of_subset_right _
        (List.subset_cons_of_subset _ (List.subset_append_of_subset_right _ hp)))
    refine List.forall_mem_cons.mpr ⟨?_, fun param hparam => ?_⟩
    · exact hpart _ (List.subset_append_of_subset_left _ hvalue.subset)
    · exact hpart _ (List.subset_append_of_subset_right _ (ih param hparam))

theorem IsParams.isUpper {t : Text} {params : List (Text × Text)} (h : IsParams t params) :
    ∀ param ∈ params, ∀ c ∈ param.1, c.isUpper = false := by
  induction h with
  | nil => exact List.forall_mem_nil _
  | cons _ _ _ _ _ _ _ ih => exact List.forall_mem_cons.mpr ⟨Text.isUpper_lowercase _, ih⟩

theorem exists_cons_of_isToken {name : Text}
    (h : isToken (Text.lowercase (Text.trim name)) = true) :
    ∃ c s, Text.trim name = c :: s ∧ c ≠ ';' ∧ Text.isBlank c = false := by
  obtain ⟨hne, htoken⟩ := isToken_iff.mp h
  cases ht : Text.trim name with
  | nil =>
    rw [ht] at hne
    exact absurd rfl hne
  | cons c s =>
    rw [ht] at htoken
    refine ⟨c, s, rfl, ?_, Text.head?_trim c (by rw [ht]; rfl)⟩
    rintro rfl
    have hspecial := (htoken _ (Text.mem_lowercase_of_lt List.mem_cons_self (by decide))).2
    cases hspecial

theorem readParams_of_cut {t name r value rest : Text}
    (hcut : Text.cutAt ['='] (t.dropWhile fun c => c == ';' || Text.isBlank c) = some (name, r))
    (htoken : isToken (Text.lowercase (Text.trim name)) = true)
    (hvalue : value? (Text.trimStart r) = some (value, rest)) :
    readParams t = (readParams rest).map fun params =>
      (Text.lowercase (Text.trim name), value) :: params := by
  have hne : (t.dropWhile fun c => c == ';' || Text.isBlank c).isEmpty = false := by
    rw [Text.cutAt_eq_some hcut]
    simp
  rw [readParams, hne, if_neg Bool.false_ne_true]
  split
  · next hc =>
    rw [hcut] at hc
    cases hc
  · next hc =>
    rw [hcut] at hc
    cases hc
    simp only [htoken, Bool.not_true, Bool.false_eq_true, if_false]
    split
    · next hv =>
      rw [hvalue] at hv
      cases hv
    · next hv =>
      rw [hvalue] at hv
      cases hv
      rfl

theorem readParams_gap_append {gap name r value rest : Text} (hgap : IsGap gap) (hname : '=' ∉ name)
    (htoken : isToken (Text.lowercase (Text.trim name)) = true)
    (hvalue : value? (Text.trimStart r) = some (value, rest)) :
    readParams (gap ++ (name ++ '=' :: r)) = (readParams rest).map fun params =>
      (Text.lowercase (Text.trim name), value) :: params := by
  obtain ⟨a, b, hsplit, ha, hb⟩ := Text.exists_trim name
  obtain ⟨c, s, htrim, hsemicolon, hblank⟩ := exists_cons_of_isToken htoken
  have htrimmed : Text.trim (Text.trim name ++ b) = Text.trim name := by
    rw [Text.trim_append_blanks _ hb]
    exact Text.isTrimmed_trim name
  have hstart : (gap ++ (name ++ '=' :: r)).dropWhile (fun c => c == ';' || Text.isBlank c) =
      Text.trim name ++ b ++ '=' :: r := by
    -- The blanks before the name are passed over together with the gap.
    have hblanks : IsGap a := fun c hc => .inr (ha c hc)
    rw [dropWhile_gap _ hgap, hsplit, List.append_assoc, dropWhile_gap _ hblanks, ← hsplit]
    apply Text.dropWhile_eq_self
    simp [htrim, hsemicolon, hblank]
  have hequals : '=' ∉ Text.trim name ++ b := by
    rw [hsplit] at hname
    exact fun hm => hname (List.mem_append_right _ hm)
  have hcut := Text.cutAt_append_char r hequals
  rw [← hstart] at hcut
  rw [readParams_of_cut hcut (by rwa [htrimmed]) hvalue, htrimmed]

theorem trimStart_value {blanks s v rest : Text} (hblanks : ∀ c ∈ blanks, Text.isBlank c = true)
    (h : IsValue s v) (hrest : StartsNext rest) :
    Text.trimStart (blanks ++ (s ++ rest)) = s ++ rest := by
  rw [Text.trimStart, List.dropWhile_append_of_pos hblanks]
  apply Text.dropWhile_eq_self
  intro c hc
  rw [List.head?_append, Option.mem_def, Option.or_eq_some_iff] at hc
  rcases hc with hc | ⟨-, hc⟩
  · cases h with
    | quoted =>
      cases hc
      rfl
    | bare hhead => exact (hhead c hc).2
  · rw [hrest c hc]
    rfl

theorem readParams_of_isParams {t : Text} {params : List (Text × Text)} (h : IsParams t params) :
    readParams t = .ok params := by
  induction h with
  | @nil gap hgap =>
    have hstart := dropWhile_gap [] hgap
    rw [List.append_nil] at hstart
    rw [readParams, hstart]
    rfl
  | cons hgap hname htoken hblanks hvalue hrest _ ih =>
    have hread := value?_of_isValue hvalue hrest
    rw [← trimStart_value hblanks hvalue hrest] at hread
    rw [readParams_gap_append hgap hname htoken hread, ih]
    rfl

theorem isParams_of_readParams {t : Text} {params : List (Text × Text)}
    (h : readParams t = .ok params) : IsParams t params := by
  fun_induction readParams t generalizing params with
  | case1 t start =>
    rename_i hstart
    cases h
    obtain ⟨gap, hgap, ht⟩ : ∃ gap, IsGap gap ∧ t = gap ++ start := exists_isGap t
    rw [List.isEmpty_iff.mp hstart, List.append_nil] at ht
    rw [ht]
    exact .nil hgap
  | case2 => cases h
  | case3 => cases h
  | case4 => cases h
  | case5 t start _ name r hcut lower htoken value rest hvalue =>
    rename_i ih
    obtain ⟨gap, hgap, ht⟩ : ∃ gap, IsGap gap ∧ t = gap ++ start := exists_isGap t
    obtain ⟨hstart, hname⟩ := Text.cutAt_char_eq_some_iff.mp hcut
    obtain ⟨s, hs, hrest, hr⟩ := exists_isValue Text.head?_dropWhile hvalue
    cases hp : readParams rest with
    | error fault => rw [hp] at h; cases h
    | ok more =>
      rw [hp] at h
      cases h
      rw [ht, hstart, ← List.takeWhile_append_dropWhile (p := Text.isBlank) (l := r), hr]
      exact .cons hgap hname (by simpa using htoken) (fun c hc => List.mem_takeWhile_imp hc) hs
        hrest (ih hp)

theorem readParams_eq_ok_iff {t : Text} {params : List (Text × Text)} :
    readParams t = .ok params ↔ IsParams t params :=
  ⟨isParams_of_readParams, readParams_of_isParams⟩

end MimeMail.MediaType
