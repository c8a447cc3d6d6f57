import Mathlib
import MimeMail.Toml.Document

namespace MimeMail.Toml

namespace Entries

theorem get?_eq_none_iff {entries : Entries} {key : Text} :
    entries.get? key = none ↔ key ∉ entries.map (·.1) := by
  simp only [get?, Option.map_eq_none_iff, List.find?_eq_none, List.mem_map, not_exists, not_and,
    beq_iff_eq]

theorem set_of_get?_eq_none {entries : Entries} {key : Text} (h : entries.get? key = none)
    (value : Value) : entries.set key value = entries ++ [(key, value)] := by
  have hany : entries.any (·.1 == key) = false := by
    simpa [get?] using h
  rw [set, if_neg (by simp [hany])]

theorem get?_append_last {entries : Entries} {key : Text} (h : entries.get? key = none)
    (value : Value) : get? (entries ++ [(key, value)]) key = some value := by
  have hfind : entries.find? (·.1 == key) = none := Option.map_eq_none_iff.1 h
  simp [get?, hfind]

theorem set_append_last {entries : Entries} {key : Text} (h : entries.get? key = none)
    (old new : Value) : set (entries ++ [(key, old)]) key new = entries ++ [(key, new)] := by
  have hmap : entries.map (fun entry => if entry.1 == key then (key, new) else entry) = entries := by
    refine (List.map_congr_left fun e he => ?_).trans (List.map_id entries)
    have hne : e.1 ≠ key := fun heq => get?_eq_none_iff.1 h (heq ▸ List.mem_map_of_mem he)
    simp [hne]
  rw [set, if_pos (by simp), List.map_append, hmap]
  simp

end Entries

namespace Draft

theorem take_table {entries : Entries} {name : Text} (h : entries.get? name = none) (opened : Key) :
    take ⟨entries, opened⟩ (.table [name]) = some ⟨entries ++ [(name, .table .header [])], [name]⟩ := by
  have hopen : openTable name entries = some (entries ++ [(name, .table .header [])]) := by
    rw [openTable, h, Entries.set_of_get?_eq_none h]
  exact congrArg (Option.map (Draft.mk · [name])) hopen

theorem take_pair {entries sub : Entries} {name key : Text} (h : entries.get? name = none)
    (hk : sub.get? key = none) (value : Value) :
    take ⟨entries ++ [(name, .table .header sub)], [name]⟩ (.pair [key] value) =
      some ⟨entries ++ [(name, .table .header (sub ++ [(key, value)]))], [name]⟩ := by
  have hadd : addPair [key] value sub = some (sub ++ [(key, value)]) := by
    simp [addPair, atPath, hk, Entries.set_of_get?_eq_none hk]
  simp [take, atPath, Entries.get?_append_last h, hadd, Entries.set_append_last h]

theorem foldlM_take_pairs {entries : Entries} {name : Text} (h : entries.get? name = none)
    (sub pairs : Entries) (hd : ((sub ++ pairs).map (·.1)).Nodup) :
    (pairs.map fun (key, value) => Statement.pair [key] value).foldlM take
        ⟨entries ++ [(name, .table .header sub)], [name]⟩ =
      some ⟨entries ++ [(name, .table .header (sub ++ pairs))], [name]⟩ := by
  induction pairs generalizing sub with
  | nil => simp
  | cons pair pairs ih =>
    obtain ⟨key, value⟩ := pair
    have hk : sub.get? key = none := by
      rw [Entries.get?_eq_none_iff]
      intro hmem
      rw [List.map_append, List.map_cons] at hd
      exact (List.nodup_append.1 hd).2.2 key hmem key List.mem_cons_self rfl
    have hassoc : sub ++ (key, value) :: pairs = sub ++ [(key, value)] ++ pairs := by simp
    rw [hassoc] at hd ⊢
    rw [List.map_cons, List.foldlM_cons, take_pair h hk]
    exact ih _ hd

end Draft

def tableStatements (table : Text × Entries) : List Statement :=
  .table [table.1] :: table.2.map fun (key, value) => .pair [key] value

namespace Draft

theorem foldlM_take_tables (draft : Draft) (tables : List (Text × Entries))
    (hn : (draft.entries.map (·.1) ++ tables.map (·.1)).Nodup)
    (hk : ∀ table ∈ tables, (table.2.map (·.1)).Nodup) :
    ((tables.flatMap tableStatements).foldlM take draft).map entries =
      some (draft.entries ++ tables.map fun (name, pairs) => (name, .table .header pairs)) := by
  induction tables generalizing draft with
  | nil => simp
  | cons table tables ih =>
    obtain ⟨entries, opened⟩ := draft
    obtain ⟨name, pairs⟩ := table
    obtain ⟨hpairs, hk⟩ := List.forall_mem_cons.1 hk
    have hname : entries.get? name = none := by
      rw [Entries.get?_eq_none_iff]
      exact fun hmem => (List.nodup_append.1 hn).2.2 name hmem name List.mem_cons_self rfl
    have hfold := foldlM_take_pairs hname [] pairs hpairs
    rw [List.flatMap_cons, List.foldlM_append, tableStatements, List.foldlM_cons, take_table hname]
    change (((pairs.map _).foldlM take _).bind _).map _ = _
    rw [hfold, Option.bind_some, ih _ (by simpa using hn) hk]
    simp

end Draft

theorem read?_of_statements? {t : Text} {tables : List (Text × Entries)}
    (hm : t.head? ≠ some '\uFEFF')
    (ht : statements? t = some (tables.flatMap tableStatements)) (hn : (tables.map (·.1)).Nodup)
    (hk : ∀ table ∈ tables, (table.2.map (·.1)).Nodup) :
    read? t = some (tables.map fun (name, pairs) => (name, .table .header pairs)) := by
  have hfold := Draft.foldlM_take_tables {} tables (by simpa using hn) hk
  have hmark : (if t.head? == some '\uFEFF' then t.drop 1 else t) = t := if_neg (by simpa using hm)
  rw [Option.map_eq_bind] at hfold
  rw [read?]
  simp only [hmark, ht]
  exact hfold

end MimeMail.Toml
