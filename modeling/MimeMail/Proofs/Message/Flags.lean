import Mathlib
import MimeMail.Message.Flags

namespace MimeMail.Flags

def systemSymbols : List Text :=
  ["\\Seen", "\\Deleted", "\\Answered", "\\Flagged", "\\Draft", "\\Recent"].map String.toList

def Occurs (xs : List Text) (symbol : Text) : Prop := ∃ s ∈ xs, Text.same (Text.trim s) symbol = true

instance (xs : List Text) (symbol : Text) : Decidable (Occurs xs symbol) :=
  inferInstanceAs (Decidable (∃ s ∈ xs, Text.same (Text.trim s) symbol = true))

def union (f g : Flags) : Flags where
  seen := f.seen || g.seen
  deleted := f.deleted || g.deleted
  answered := f.answered || g.answered
  flagged := f.flagged || g.flagged
  draft := f.draft || g.draft
  recent := f.recent || g.recent

def mark (flags : Flags) (s : Text) : Flags :=
  let names (symbol : String) : Bool := Text.same (Text.trim s) symbol.toList
  if names "\\Seen" then { flags with seen := true }
  else if names "\\Deleted" then { flags with deleted := true }
  else if names "\\Answered" then { flags with answered := true }
  else if names "\\Flagged" then { flags with flagged := true }
  else if names "\\Draft" then { flags with draft := true }
  else if names "\\Recent" then { flags with recent := true }
  else flags

theorem nodup_systemSymbols : (systemSymbols.map (List.map Char.toLower)).Nodup := by decide

theorem trim_systemSymbols : ∀ symbol ∈ systemSymbols, Text.trim symbol = symbol := by decide

theorem same_congr {s t : Text} (h : Text.same s t = true) : Text.same s = Text.same t := by
  funext r
  rw [Text.same, Text.same, beq_iff_eq.mp h]

theorem eq_of_same {a b : Text} (ha : a ∈ systemSymbols) (hb : b ∈ systemSymbols)
    (h : Text.same (Text.trim a) b = true) : a = b := by
  rw [trim_systemSymbols a ha] at h
  exact List.inj_on_of_nodup_map nodup_systemSymbols ha hb (beq_iff_eq.mp h)

theorem occurs_append {xs ys : List Text} {symbol : Text} :
    Occurs (xs ++ ys) symbol ↔ Occurs xs symbol ∨ Occurs ys symbol := by
  simp only [Occurs, List.mem_append, or_and_right, exists_or]

theorem occurs_filter {p : Text → Bool} {symbol : Text} (hs : symbol ∈ systemSymbols) :
    Occurs (systemSymbols.filter p) symbol ↔ p symbol = true := by
  constructor
  · rintro ⟨s, hm, hsame⟩
    obtain ⟨hsystem, hp⟩ := List.mem_filter.mp hm
    rwa [eq_of_same hsystem hs hsame] at hp
  · intro hp
    refine ⟨symbol, List.mem_filter.mpr ⟨hs, hp⟩, ?_⟩
    rw [trim_systemSymbols symbol hs]
    exact beq_self_eq_true _

theorem ofSymbols_eq (xs : List Text) :
    ofSymbols xs =
      { seen := Occurs xs "\\Seen".toList
        deleted := Occurs xs "\\Deleted".toList
        answered := Occurs xs "\\Answered".toList
        flagged := Occurs xs "\\Flagged".toList
        draft := Occurs xs "\\Draft".toList
        recent := Occurs xs "\\Recent".toList } := by
  have hany (symbol : Text) :
      (xs.any fun s => Text.same (Text.trim s) symbol) = decide (Occurs xs symbol) := by
    rw [Bool.eq_iff_iff, List.any_eq_true, decide_eq_true_eq]
    rfl
  simp only [ofSymbols, hany]

theorem ofSymbols_append (xs ys : List Text) :
    ofSymbols (xs ++ ys) = (ofSymbols xs).union (ofSymbols ys) := by
  simp only [ofSymbols_eq, union, occurs_append, Bool.decide_or]

theorem ofSymbols_eq_iff {xs ys : List Text} :
    ofSymbols xs = ofSymbols ys ↔ ∀ symbol ∈ systemSymbols, (Occurs xs symbol ↔ Occurs ys symbol) := by
  simp only [ofSymbols_eq, systemSymbols, mk.injEq, decide_eq_decide, List.map_cons, List.map_nil,
    List.forall_mem_cons, List.not_mem_nil, false_imp_iff, implies_true, and_true]

theorem symbols_ofSymbols (xs : List Text) :
    (ofSymbols xs).symbols = systemSymbols.filter (Occurs xs ·) := by
  rw [ofSymbols_eq, ← List.filterMap_eq_filter]
  rfl

theorem mark_system (flags : Flags) :
    ∀ symbol ∈ systemSymbols, mark flags symbol = (ofSymbols [symbol]).union flags := by
  simp only [systemSymbols, List.map_cons, List.map_nil, List.forall_mem_cons]
  exact ⟨rfl, rfl, rfl, rfl, rfl, rfl, List.forall_mem_nil _⟩

theorem mark_keyword {s : Text} (flags : Flags)
    (h : ∀ symbol ∈ systemSymbols, Text.same (Text.trim s) symbol = false) :
    mark flags s = (ofSymbols [s]).union flags := by
  simp only [systemSymbols, List.map_cons, List.map_nil, List.forall_mem_cons] at h
  obtain ⟨hseen, hdeleted, hanswered, hflagged, hdraft, hrecent, -⟩ := h
  have hmark : mark flags s = flags := by
    simp only [mark, hseen, hdeleted, hanswered, hflagged, hdraft, hrecent, Bool.false_eq_true,
      if_false]
  have hof : ofSymbols [s] = {} := by
    simp only [ofSymbols, List.any_cons, List.any_nil, hseen, hdeleted, hanswered, hflagged, hdraft,
      hrecent, Bool.or_false]
  rw [hmark, hof]
  rfl

theorem mark_eq_union (flags : Flags) (s : Text) : mark flags s = (ofSymbols [s]).union flags := by
  by_cases hs : ∃ symbol ∈ systemSymbols, Text.same (Text.trim s) symbol = true
  · -- What is done with `s` depends on the symbol that it names only.
    obtain ⟨symbol, hm, hsame⟩ := hs
    have hmark : mark flags s = mark flags symbol := by
      simp only [mark, same_congr hsame, trim_systemSymbols symbol hm]
    have hof : ofSymbols [s] = ofSymbols [symbol] := by
      simp only [ofSymbols, List.any_cons, same_congr hsame, trim_systemSymbols symbol hm]
    rw [hmark, hof]
    exact mark_system flags symbol hm
  · apply mark_keyword
    intro symbol hm
    by_contra hsame
    exact hs ⟨symbol, hm, Bool.eq_true_of_not_eq_false hsame⟩

theorem foldl_mark (flags : Flags) (xs : List Text) :
    xs.foldl mark flags = (ofSymbols xs).union flags := by
  induction xs generalizing flags with
  | nil => simp [ofSymbols, union]
  | cons s xs ih =>
    have happend := ofSymbols_append [s] xs
    rw [List.singleton_append] at happend
    rw [List.foldl_cons, ih, mark_eq_union, happend]
    simp only [union, Bool.or_assoc, Bool.or_left_comm]

theorem ofSymbols_union (xs ys : List Text) :
    ofSymbols (xs ++ ys) = (ofSymbols xs).union (ofSymbols ys) ∧
      ofSymbols xs = xs.foldl mark {} ∧
      (ofSymbols xs = ofSymbols ys ↔
        ∀ symbol ∈ systemSymbols, (Occurs xs symbol ↔ Occurs ys symbol)) ∧
      (ofSymbols xs).symbols = systemSymbols.filter (Occurs xs ·) ∧
      (ofSymbols xs).symbols.Nodup ∧
      ofSymbols (ofSymbols xs).symbols = ofSymbols xs := by
  have hnodup : systemSymbols.Nodup := nodup_systemSymbols.of_map
  have hsymbols := symbols_ofSymbols xs
  refine ⟨ofSymbols_append xs ys, ?_, ofSymbols_eq_iff, hsymbols, ?_, ?_⟩
  · rw [foldl_mark]
    simp only [union, Bool.or_false]
  · rw [hsymbols]
    exact hnodup.filter _
  · rw [ofSymbols_eq_iff, hsymbols]
    intro symbol hm
    rw [occurs_filter hm, decide_eq_true_eq]

end MimeMail.Flags
