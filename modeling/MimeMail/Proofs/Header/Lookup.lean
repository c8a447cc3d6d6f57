import MimeMail.Proofs.Header.Grouping
import MimeMail.Proofs.Header.Injection

namespace MimeMail.FieldMap

theorem same_iff_of_isUpper {name q : Text} (h : ∀ c ∈ name, c.isUpper = false) :
    Text.same name q = true ↔ name = q.map Char.toLower := by
  rw [Text.same, beq_iff_eq, Text.map_toLower_eq_self h]

theorem find?_of_unique {α : Type} [DecidableEq α] {l : List α} {p : α → Bool} {x : α}
    (h : ∀ a ∈ l, (p a = true ↔ a = x)) : l.find? p = if x ∈ l then some x else none := by
  cases hf : l.find? p with
  | none =>
    have hx : x ∉ l := fun hx => List.find?_eq_none.mp hf x hx ((h x hx).mpr rfl)
    rw [if_neg hx]
  | some a =>
    have hm := List.mem_of_find?_eq_some hf
    obtain rfl := (h a hm).mp (List.find?_some hf)
    rw [if_pos hm]

theorem get?_ofFields {fields : List Field} (h : ∀ f ∈ fields, f.IsRead) (q : Text) :
    (ofFields fields).get? q =
      if q.map Char.toLower ∈ fields.map Field.name then
        some (valuesOf fields (q.map Char.toLower))
      else none := by
  have hunique : ∀ name ∈ (fields.map Field.name).eraseDups,
      (Text.same name q = true ↔ name = q.map Char.toLower) := by
    intro name hm
    obtain ⟨f, hf, rfl⟩ := List.mem_map.mp (List.mem_eraseDups.mp hm)
    exact same_iff_of_isUpper (h f hf).isUpper_name
  rw [get?, entries_ofFields, grouped, List.find?_map, Option.map_map]
  have hfind := find?_of_unique hunique
  simp only [List.mem_eraseDups] at hfind
  change ((fields.map Field.name).eraseDups.find? fun name => Text.same name q).map _ = _
  rw [hfind]
  split <;> rfl

theorem first?_ofText (t : Text) {q : Text} (hq : ∀ c ∈ q, c.isUpper = false) :
    (ofText t).first? q = (valuesOf (Field.ofText t) q).head? := by
  rw [first?, ofText, get?_ofFields Field.isRead_ofText, Text.map_toLower_eq_self hq]
  split
  · rfl
  · next h =>
    rw [valuesOf_eq_nil h]
    rfl

theorem length_eraseDups {α : Type} [BEq α] [LawfulBEq α] [DecidableEq α] (l : List α) :
    l.eraseDups.length = l.toFinset.card := by
  rw [← List.toFinset_card_of_nodup (nodup_eraseDups l)]
  congr 1
  ext a
  simp only [List.mem_toFinset, List.mem_eraseDups]

theorem mem_valuesOf {fields : List Field} {name value : Text} :
    value ∈ valuesOf fields name ↔ ∃ f ∈ fields, f.name = name ∧ f.value = value := by
  simp only [valuesOf, List.mem_map, List.mem_filter, decide_eq_true_eq, and_assoc]

theorem ofText_lookup (t : Text) :
    let fields := Field.ofText t
    let map := ofText t
    (∀ q, map.get? q =
        if q.map Char.toLower ∈ fields.map Field.name then
          some (valuesOf fields (q.map Char.toLower))
        else none) ∧
      map.entries = (fields.map Field.name).eraseDups.map (fun name => (name, valuesOf fields name)) ∧
      (map.entries.map (·.1)).Nodup ∧
      map.size = (fields.map Field.name).toFinset.card ∧
      (map.entries.map (·.2.length)).sum = fields.length ∧
      ∀ entry ∈ map.entries, entry.1 ≠ [] ∧
        ∀ value ∈ entry.2, '\n' ∉ value ∧ Text.IsTrimmed value := by
  intro fields map
  have hentries : map.entries = grouped fields := entries_ofFields fields
  have hnames : map.entries.map (·.1) = (fields.map Field.name).eraseDups := by
    rw [hentries, grouped, List.map_map]
    exact List.map_id _
  refine ⟨get?_ofFields Field.isRead_ofText, hentries, ?_, ?_, ?_, ?_⟩
  · rw [hnames]
    exact nodup_eraseDups _
  · rw [size, ← List.length_map (·.1), hnames, length_eraseDups]
  · have hsum := sum_counts fields
    rwa [counts, List.map_map] at hsum
  · intro entry hm
    rw [hentries] at hm
    obtain ⟨name, hname, rfl⟩ := List.mem_map.mp hm
    obtain ⟨f, hf, rfl⟩ := List.mem_map.mp (List.mem_eraseDups.mp hname)
    refine ⟨(Field.isRead_ofText f hf).name_ne_nil, fun value hv => ?_⟩
    obtain ⟨g, hg, -, rfl⟩ := mem_valuesOf.mp hv
    have hread := Field.isRead_ofText g hg
    exact ⟨hread.newline_not_mem, hread.isTrimmed⟩

end MimeMail.FieldMap
