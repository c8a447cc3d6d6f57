import Mathlib
import MimeMail.Content.Basic

namespace MimeMail.Content

theorem find?_insertSorted (mediaType key : Text) (part : Part) (parts : List (Text × Part)) :
    (insertSorted mediaType part parts).find? (·.1 = key) =
      if mediaType = key then some (mediaType, part) else parts.find? (·.1 = key) := by
  induction parts with
  | nil => by_cases h : mediaType = key <;> simp [insertSorted, h]
  | cons entry parts ih =>
    rw [insertSorted]
    split
    · by_cases h : mediaType = key <;> simp [h]
    · split
      · next he =>
        subst he
        by_cases h : entry.1 = key <;> simp [h]
      · next hne =>
        rw [List.find?_cons, ih, List.find?_cons]
        by_cases h : mediaType = key
        · have hk : entry.1 ≠ key := fun he => hne (h.trans he.symm)
          simp [h, hk]
        · simp [h]

theorem get?_insert (content : Content) (mediaType key : Text) (part : Part) :
    (content.insert mediaType part).get? key =
      if mediaType = key then some part else content.get? key := by
  rw [get?, insert, find?_insertSorted]
  split <;> rfl

theorem nodup_keys (content : Content) : (content.parts.map (·.1)).Nodup := by
  rw [List.Nodup, List.pairwise_map]
  exact content.sorted.imp fun h => ne_of_lt h

theorem mem_parts_iff {content : Content} {key : Text} {part : Part} :
    (key, part) ∈ content.parts ↔ content.get? key = some part := by
  rw [get?]
  constructor
  · intro h
    cases hf : content.parts.find? (·.1 = key) with
    | none => simpa using List.find?_eq_none.mp hf _ h
    | some entry =>
      have hk : entry.1 = key := by simpa using List.find?_some hf
      have he := List.inj_on_of_nodup_map content.nodup_keys (List.mem_of_find?_eq_some hf) h hk
      rw [he]
      rfl
  · intro h
    obtain ⟨entry, hf, rfl⟩ := Option.map_eq_some_iff.mp h
    have hk : entry.1 = key := by simpa using List.find?_some hf
    rw [← hk]
    exact List.mem_of_find?_eq_some hf

def types (content : Content) : List Text := content.parts.map (·.1)

theorem mem_types_iff {content : Content} {key : Text} :
    key ∈ content.types ↔ (content.get? key).isSome = true := by
  rw [types, List.mem_map, Option.isSome_iff_exists]
  constructor
  · rintro ⟨⟨key, part⟩, hm, rfl⟩
    exact ⟨part, mem_parts_iff.mp hm⟩
  · rintro ⟨part, h⟩
    exact ⟨(key, part), mem_parts_iff.mpr h, rfl⟩

theorem ext_get? {c d : Content} (h : ∀ key, c.get? key = d.get? key) : c = d := by
  have hmem : ∀ entry, entry ∈ c.parts ↔ entry ∈ d.parts := by
    rintro ⟨key, part⟩
    rw [mem_parts_iff, mem_parts_iff, h]
  have hperm : c.parts.Perm d.parts := (List.perm_ext_iff_of_nodup c.nodup_keys.of_map
    d.nodup_keys.of_map).mpr hmem
  have hparts : c.parts = d.parts := hperm.eq_of_pairwise
    (fun a b _ _ hab hba => absurd hab (not_lt_of_gt hba)) c.sorted d.sorted
  cases c
  cases d
  cases hparts
  rfl

def overwrite (old new : Content) : Content :=
  new.parts.foldl (fun content (mediaType, part) => content.insert mediaType part) old

theorem get?_foldl (parts : List (Text × Part)) (content : Content) (key : Text) :
    (parts.foldl (fun content (mediaType, part) => content.insert mediaType part) content).get? key =
      ((ofParts parts).get? key <|> content.get? key) := by
  induction parts generalizing content with
  | nil => rfl
  | cons entry parts ih =>
    rw [ofParts, List.foldl_cons, List.foldl_cons, ih, ih (insert {} _ _), get?_insert, get?_insert]
    cases (ofParts parts).get? key with
    | some part => rfl
    | none => by_cases h : entry.1 = key <;> simp [h, get?]

theorem mem_types_ofParts {parts : List (Text × Part)} {key : Text} :
    key ∈ (ofParts parts).types ↔ key ∈ parts.map (·.1) := by
  rw [mem_types_iff]
  induction parts with
  | nil => simp [ofParts, get?]
  | cons entry parts ih =>
    rw [ofParts, List.foldl_cons, get?_foldl, get?_insert, List.map_cons, List.mem_cons, ← ih]
    by_cases hk : entry.1 = key
    · simp [hk]
    · simp [hk, Ne.symm hk, get?]

theorem get?_ofParts_of_sorted {parts : List (Text × Part)} (h : parts.Pairwise (·.1 < ·.1))
    (key : Text) : (ofParts parts).get? key = (parts.find? (·.1 = key)).map (·.2) := by
  induction parts with
  | nil => rfl
  | cons entry parts ih =>
    rw [List.pairwise_cons] at h
    rw [ofParts, List.foldl_cons, get?_foldl, ih h.2, get?_insert]
    by_cases hk : entry.1 = key
    · have hn : parts.find? (·.1 = key) = none := by
        rw [List.find?_eq_none]
        intro e he
        have hlt : entry.1 < e.1 := h.1 e he
        simpa [← hk] using (ne_of_lt hlt).symm
      simp [hk, hn]
    · simp [hk, get?]

theorem ofParts_parts (content : Content) : ofParts content.parts = content :=
  ext_get? fun key => get?_ofParts_of_sorted content.sorted key

theorem get?_overwrite (old new : Content) (key : Text) :
    (old.overwrite new).get? key = (new.get? key <|> old.get? key) := by
  rw [overwrite, get?_foldl, ofParts_parts]

theorem ofParts_append (before after : List (Text × Part)) :
    ofParts (before ++ after) = (ofParts before).overwrite (ofParts after) := by
  apply ext_get?
  intro key
  rw [get?_overwrite, ofParts, List.foldl_append, get?_foldl]
  rfl

end MimeMail.Content
