import MimeMail.Proofs.Header.Fields

namespace MimeMail.FieldMap

def valuesOf (fields : List Field) (name : Text) : List Text :=
  (fields.filter fun field => field.name = name).map Field.value

def grouped (fields : List Field) : List (Text × List Text) :=
  (fields.map Field.name).eraseDups.map fun name => (name, valuesOf fields name)

theorem eraseDups_concat {α : Type} [BEq α] [LawfulBEq α] (l : List α) (a : α) :
    (l ++ [a]).eraseDups = if a ∈ l then l.eraseDups else l.eraseDups ++ [a] := by
  rw [List.eraseDups_append, List.removeAll]
  by_cases h : a ∈ l <;> simp [h, List.eraseDups_cons]

theorem nodup_eraseDups {α : Type} [BEq α] [LawfulBEq α] (l : List α) : l.eraseDups.Nodup := by
  induction l using List.reverseRecOn with
  | nil => simp
  | append_singleton l a ih =>
    rw [eraseDups_concat]
    split
    · exact ih
    · next h =>
      have ha : a ∉ l.eraseDups := by rwa [List.mem_eraseDups]
      refine List.nodup_append.mpr ⟨ih, List.nodup_singleton a, fun b hb c hc => ?_⟩
      rw [List.mem_singleton.mp hc]
      exact ne_of_mem_of_not_mem hb ha

theorem eraseDups_of_nodup {α : Type} [BEq α] [LawfulBEq α] {l : List α} (h : l.Nodup) :
    l.eraseDups = l := by
  induction l using List.reverseRecOn with
  | nil => rfl
  | append_singleton l a ih =>
    obtain ⟨hl, -, hne⟩ := List.nodup_append.mp h
    rw [eraseDups_concat, if_neg fun ha => hne a ha a (List.mem_singleton_self a) rfl, ih hl]

theorem length_valuesOf (fields : List Field) (name : Text) :
    (valuesOf fields name).length = (fields.map Field.name).count name := by
  rw [valuesOf, List.length_map, ← List.countP_eq_length_filter, List.count, List.countP_map]
  exact List.countP_congr fun field _ => by simp

theorem valuesOf_concat (fields : List Field) (field : Field) (name : Text) :
    valuesOf (fields ++ [field]) name =
      valuesOf fields name ++ if field.name = name then [field.value] else [] := by
  unfold valuesOf
  by_cases h : field.name = name <;> simp [h]

theorem valuesOf_eq_nil {fields : List Field} {name : Text} (h : name ∉ fields.map Field.name) :
    valuesOf fields name = [] := by
  simp only [List.mem_map, not_exists, not_and] at h
  simpa [valuesOf] using h

theorem addTo_map {names : List Text} {values : Text → List Text} {field : Field}
    (hn : names.Nodup) (hf : field.name ∈ names) :
    addTo field (names.map fun name => (name, values name)) =
      names.map fun name =>
        (name, values name ++ if field.name = name then [field.value] else []) := by
  induction names with
  | nil => cases hf
  | cons name names ih =>
    rw [List.nodup_cons] at hn
    rw [List.map_cons, List.map_cons, addTo]
    by_cases he : name = field.name
    · subst he
      have hrest : ∀ other ∈ names, field.name ≠ other := fun other ho he => hn.1 (he ▸ ho)
      rw [if_pos (beq_self_eq_true _), if_pos rfl]
      congr 1
      exact List.map_congr_left fun other ho => by simp [hrest other ho]
    · have hm : field.name ∈ names := (List.mem_cons.mp hf).resolve_left (Ne.symm he)
      rw [if_neg (by simpa using he), if_neg (Ne.symm he), ih hn.2 hm, List.append_nil]

theorem addTo_grouped (fields : List Field) (field : Field) :
    addTo field (grouped fields) = grouped (fields ++ [field]) := by
  unfold grouped
  rw [List.map_append, List.map_singleton, eraseDups_concat]
  by_cases hm : field.name ∈ fields.map Field.name
  · rw [if_pos hm, addTo_map (nodup_eraseDups _) (List.mem_eraseDups.mpr hm)]
    exact List.map_congr_left fun name _ => by rw [valuesOf_concat]
  · have hnew : field.name ∉ ((fields.map Field.name).eraseDups.map fun name =>
        (name, valuesOf fields name)).map (·.1) := by
      rw [List.map_map]
      simpa [Function.comp_def] using hm
    rw [if_neg hm, addTo_of_not_mem hnew, List.map_append, List.map_singleton, valuesOf_concat,
      valuesOf_eq_nil hm, if_pos rfl]
    congr 1
    refine List.map_congr_left fun name hname => ?_
    have hne : field.name ≠ name := by
      rintro rfl
      exact hm (List.mem_eraseDups.mp hname)
    rw [valuesOf_concat, if_neg hne, List.append_nil]

theorem entries_ofFields (fields : List Field) : (ofFields fields).entries = grouped fields := by
  induction fields using List.reverseRecOn with
  | nil => rfl
  | append_singleton fields field ih =>
    rw [ofFields, List.foldl_append, ← addTo_grouped, ← ih]
    rfl

end MimeMail.FieldMap
