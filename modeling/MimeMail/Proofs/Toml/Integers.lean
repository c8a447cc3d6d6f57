import Mathlib
import MimeMail.Proofs.Text.Digits
import MimeMail.Toml.Document

namespace MimeMail.Toml

inductive Value.IsBounded : Value → Prop where
  | text (t : Text) : IsBounded (.text t)
  | integer {n : ℤ} (h : -2 ^ 63 ≤ n ∧ n < 2 ^ 63) : IsBounded (.integer n)
  | boolean (b : Bool) : IsBounded (.boolean b)
  | float (t : Text) : IsBounded (.float t)
  | dateTime (t : Text) : IsBounded (.dateTime t)
  | array {values : List Value} (h : ∀ value ∈ values, IsBounded value) : IsBounded (.array values)
  | table {origin : Origin} {entries : Entries} (h : ∀ entry ∈ entries, IsBounded entry.2) :
      IsBounded (.table origin entries)
  | series {tables : List Entries} (h : ∀ entries ∈ tables, ∀ entry ∈ entries, IsBounded entry.2) :
      IsBounded (.series tables)

def IsBoundedRead (o : Option (Value × Text)) : Prop := ∀ p ∈ o, p.1.IsBounded

namespace IsBoundedRead

variable {α : Type}

theorem none : IsBoundedRead none := by
  rintro p ⟨⟩

theorem some {value : Value} {rest : Text} (h : value.IsBounded) :
    IsBoundedRead (some (value, rest)) := by
  rintro p ⟨⟩
  exact h

theorem bind {o : Option α} {f : α → Option (Value × Text)} (h : ∀ a, IsBoundedRead (f a)) :
    IsBoundedRead (o.bind f) := by
  intro p hp
  obtain ⟨a, -, ha⟩ := Option.bind_eq_some_iff.1 hp
  exact h a p ha

theorem map {o : Option α} {f : α → Value × Text} (h : ∀ a ∈ o, (f a).1.IsBounded) :
    IsBoundedRead (o.map f) := by
  intro p hp
  obtain ⟨a, ha, rfl⟩ := Option.map_eq_some_iff.1 hp
  exact h a ha

theorem ite {c : Prop} [Decidable c] {o o' : Option (Value × Text)} (h : IsBoundedRead o)
    (h' : IsBoundedRead o') : IsBoundedRead (if c then o else o') := by
  split
  · exact h
  · exact h'

theorem orElse {o o' : Option (Value × Text)} (h : IsBoundedRead o) (h' : IsBoundedRead o') :
    IsBoundedRead (o <|> o') := by
  cases o with
  | none => exact h'
  | some _ => exact h

end IsBoundedRead

namespace Scalar

theorem isBounded_ofParts? {base : ℕ} {negative : Bool} {ds : List ℕ} {value : Value}
    (h : ofParts? base negative ds = some value) : value.IsBounded := by
  obtain ⟨n, hn, rfl⟩ := Option.map_eq_some_iff.1 h
  rw [Digits.signed?_eq] at hn
  dsimp only at hn
  generalize (if negative = true then -(Digits.number base ds : ℤ) else Digits.number base ds) = m at hn
  obtain ⟨hrange, hn⟩ := Option.ite_none_right_eq_some.1 hn
  cases hn
  exact .integer hrange

theorem isBoundedRead_based? (base : ℕ) (t : Text) : IsBoundedRead (based? base t) := by
  refine .bind fun p q hq => ?_
  obtain ⟨value, hv, hq⟩ := Option.bind_eq_some_iff.1 hq
  cases hq
  exact isBounded_ofParts? hv

theorem isBoundedRead_integer? (t : Text) : IsBoundedRead (integer? t) := by
  rw [integer?.eq_def]
  split
  · exact isBoundedRead_based? 16 _
  · exact isBoundedRead_based? 8 _
  · exact isBoundedRead_based? 2 _
  · exact .bind fun _ => .map fun _ => isBounded_ofParts?

theorem isBoundedRead_decimal? (t : Text) : IsBoundedRead (decimal? t) := by
  refine .bind fun ⟨negative, ds, r⟩ => ?_
  dsimp -zeta only
  extract_lets jp
  have h (p : List ℕ × Text) : IsBoundedRead (jp p) := by
    obtain ⟨places, r⟩ := p
    dsimp -zeta only [jp]
    extract_lets jp
    have h (p : ℤ × Text) : IsBoundedRead (jp p) := .ite .none (.some (.float _))
    split
    · exact .ite (.bind h) (.bind h)
    · exact .bind h
  split
  · exact .bind h
  · exact .ite (.bind h) (.bind h)
  · exact .bind h

theorem isBoundedRead_read? (t : Text) : IsBoundedRead (read? t) :=
  .orElse (.map fun _ _ => .dateTime _) <| .orElse (isBoundedRead_decimal? t) <|
    .orElse (.map fun _ _ => .float _) <| .orElse (isBoundedRead_integer? t) <|
    .orElse (.map fun _ _ => .boolean _) (.map fun _ _ => .boolean _)

end Scalar

def Entries.IsBounded (entries : Entries) : Prop := ∀ entry ∈ entries, entry.2.IsBounded

namespace Entries

theorem isBounded_nil : IsBounded [] := by simp [IsBounded]

theorem IsBounded.get? {entries : Entries} (h : entries.IsBounded) {key : Text} {value : Value}
    (hg : entries.get? key = some value) : value.IsBounded := by
  obtain ⟨entry, he, rfl⟩ := Option.map_eq_some_iff.1 hg
  exact h entry (List.mem_of_find?_eq_some he)

theorem IsBounded.set {entries : Entries} (h : entries.IsBounded) (key : Text) {value : Value}
    (hv : value.IsBounded) : (entries.set key value).IsBounded := by
  intro entry he
  rw [Entries.set] at he
  split at he
  · obtain ⟨old, hold, rfl⟩ := List.mem_map.1 he
    split
    · exact hv
    · exact h old hold
  · rcases List.mem_append.1 he with he | he
    · exact h entry he
    · rw [List.mem_singleton.1 he]
      exact hv

end Entries

theorem isBounded_atPath {dots : Bool} {change : Origin → Entries → Option Entries}
    (hc : ∀ origin entries new, entries.IsBounded → change origin entries = some new → new.IsBounded)
    {path : Key} {origin : Origin} {entries new : Entries} (h : entries.IsBounded)
    (hn : atPath dots change path origin entries = some new) : new.IsBounded := by
  induction path generalizing origin entries new with
  | nil => exact hc origin entries new h hn
  | cons part path ih =>
    rw [atPath] at hn
    split at hn
    · obtain ⟨sub, hsub, rfl⟩ := Option.map_eq_some_iff.1 hn
      exact h.set part (.table (ih Entries.isBounded_nil hsub))
    · next sub hget =>
      split at hn
      · cases hn
      · obtain ⟨new, hsub, rfl⟩ := Option.map_eq_some_iff.1 hn
        cases h.get? hget with
        | table hsub' => exact h.set part (.table (ih hsub' hsub))
    · next tables hget =>
      cases h.get? hget with
      | series htables =>
        split at hn
        · next sub hlast =>
          obtain ⟨new, hsub, rfl⟩ := Option.map_eq_some_iff.1 hn
          have hnew := ih (htables sub (List.mem_of_getLast? hlast)) hsub
          refine h.set part (.series fun entries he => ?_)
          rcases List.mem_append.1 he with he | he
          · exact htables entries (List.mem_of_mem_dropLast he)
          · rw [List.mem_singleton.1 he]
            exact hnew
        · cases hn
    · cases hn

theorem isBounded_addPair {key : Key} {value : Value} {entries new : Entries} (hv : value.IsBounded)
    (h : entries.IsBounded) (hn : addPair key value entries = some new) : new.IsBounded := by
  refine isBounded_atPath (fun origin entries new he hnew => ?_) h hn
  dsimp only at hnew
  split at hnew
  · cases hnew
  · cases hnew
    exact he.set _ hv

theorem foldlM_induction {α β : Type} {P : β → Prop} {f : β → α → Option β} {l : List α} {b new : β}
    (hf : ∀ a ∈ l, ∀ b new, P b → f b a = some new → P new) (h : P b)
    (hn : l.foldlM f b = some new) : P new := by
  induction l generalizing b with
  | nil =>
    cases hn
    exact h
  | cons a l ih =>
    obtain ⟨c, hc, hn⟩ := Option.bind_eq_some_iff.1 hn
    obtain ⟨ha, hl⟩ := List.forall_mem_cons.1 hf
    exact ih hl (ha b c h hc) hn

theorem isBounded_addPairs {pairs : List (Key × Value)} {entries : Entries}
    (h : ∀ pair ∈ pairs, pair.2.IsBounded) (he : addPairs pairs = some entries) :
    entries.IsBounded :=
  foldlM_induction (fun pair hp _ _ => isBounded_addPair (h pair hp)) Entries.isBounded_nil he

theorem forall_mem_map_cons {α : Type} {P : α → Prop} {a : α} {o : Option (List α × Text)}
    (ha : P a) (h : ∀ p ∈ o, ∀ b ∈ p.1, P b) :
    ∀ p ∈ o.map fun (l, rest) => (a :: l, rest), ∀ b ∈ p.1, P b := by
  intro p hp
  obtain ⟨q, hq, rfl⟩ := Option.map_eq_some_iff.1 hp
  exact List.forall_mem_cons.2 ⟨ha, h q hq⟩

section

variable {read? : Text → Option (Value × Text)} (hr : ∀ t, IsBoundedRead (read? t))

include hr

theorem isBounded_items? (t : Text) : ∀ p ∈ items? read? t, ∀ value ∈ p.1, value.IsBounded := by
  fun_induction items? read? t with
  | case1 => simp
  | case3 t value rest r _ _ hv =>
    rintro p ⟨⟩
    exact List.forall_mem_singleton.2 (hr _ (value, rest) hv)
  | case4 t value rest r _ _ _ hv ih =>
    exact forall_mem_map_cons (P := Value.IsBounded) (hr _ (value, rest) hv) ih
  | case2 => simp
  | case5 => simp
  | case6 => simp

theorem isBounded_pair? (t : Text) : ∀ p ∈ pair? read? t, p.1.2.IsBounded := by
  intro p hp
  obtain ⟨⟨key, t⟩, -, hp⟩ := Option.bind_eq_some_iff.1 hp
  obtain ⟨t, -, hp⟩ := Option.bind_eq_some_iff.1 hp
  obtain ⟨⟨value, t⟩, hv, hp⟩ := Option.bind_eq_some_iff.1 hp
  cases hp
  exact hr _ _ hv

theorem isBounded_pairs? (t : Text) : ∀ p ∈ pairs? read? t, ∀ pair ∈ p.1, pair.2.IsBounded := by
  fun_induction pairs? read? t with
  | case1 => simp
  | case2 t pair rest hp r _ =>
    rintro p ⟨⟩
    exact List.forall_mem_singleton.2 (isBounded_pair? hr t (pair, rest) hp)
  | case3 t pair rest hp r _ _ ih =>
    exact forall_mem_map_cons (P := fun pair : Key × Value => pair.2.IsBounded)
      (isBounded_pair? hr t (pair, rest) hp) ih
  | case4 => simp
  | case5 => simp

end

theorem isBoundedRead_value? (depth : ℕ) (t : Text) : IsBoundedRead (value? depth t) := by
  induction depth generalizing t with
  | zero =>
    unfold value?
    split
    · exact .map fun _ _ => .text _
    · exact .map fun _ _ => .text _
    · cases ‹_›
    · cases ‹_›
    · exact Scalar.isBoundedRead_read? _
  | succ depth ih =>
    unfold value?
    split
    · exact .map fun _ _ => .text _
    · exact .map fun _ _ => .text _
    · cases ‹_›
      exact .map fun p hp => .array (isBounded_items? ih _ p hp)
    · cases ‹_›
      split
      · exact .some (.table Entries.isBounded_nil)
      · rintro p hp
        obtain ⟨⟨pairs, r⟩, hpairs, hp⟩ := Option.bind_eq_some_iff.1 hp
        obtain ⟨entries, hentries, hp⟩ := Option.bind_eq_some_iff.1 hp
        cases hp
        exact .table (isBounded_addPairs (isBounded_pairs? ih _ _ hpairs) hentries)
    · exact Scalar.isBoundedRead_read? _

def Statement.IsBounded : Statement → Prop
  | .pair _ value => value.IsBounded
  | _ => True

theorem isBounded_statement? (t : Text) : ∀ p ∈ statement? t, p.1.IsBounded := by
  rw [statement?.eq_def]
  split
  · rintro p hp
    obtain ⟨_, -, rfl⟩ := Option.map_eq_some_iff.1 hp
    trivial
  · rintro p hp
    obtain ⟨_, -, rfl⟩ := Option.map_eq_some_iff.1 hp
    trivial
  · rintro p hp
    obtain ⟨q, hq, rfl⟩ := Option.map_eq_some_iff.1 hp
    exact isBounded_pair? (isBoundedRead_value? topDepth) t q hq

theorem isBounded_statements? (t : Text) :
    ∀ statements ∈ statements? t, ∀ s ∈ statements, s.IsBounded := by
  fun_induction statements? t with
  | case1 => simp
  | case2 => simp
  | case3 t s rest _ _ hs ih =>
    obtain ⟨q, hq, hs⟩ := Option.bind_eq_some_iff.1 hs
    obtain ⟨_, -, hs⟩ := Option.map_eq_some_iff.1 hs
    cases hs
    intro statements hstatements
    obtain ⟨l, hl, rfl⟩ := Option.map_eq_some_iff.1 hstatements
    exact List.forall_mem_cons.2 ⟨isBounded_statement? _ q hq, ih l hl⟩
  | case4 => simp

theorem isBounded_openTable {name : Text} {entries new : Entries} (h : entries.IsBounded)
    (hn : openTable name entries = some new) : new.IsBounded := by
  rw [openTable] at hn
  split at hn
  · cases hn
    exact h.set name (.table Entries.isBounded_nil)
  · next sub hget =>
    cases hn
    cases h.get? hget with
    | table hsub => exact h.set name (.table hsub)
  · cases hn

theorem isBounded_openNext {name : Text} {entries new : Entries} (h : entries.IsBounded)
    (hn : openNext name entries = some new) : new.IsBounded := by
  rw [openNext] at hn
  split at hn
  · cases hn
    refine h.set name (.series ?_)
    simp
  · next tables hget =>
    cases hn
    cases h.get? hget with
    | series htables =>
      refine h.set name (.series fun entries he => ?_)
      rcases List.mem_append.1 he with he | he
      · exact htables entries he
      · rw [List.mem_singleton.1 he]
        exact Entries.isBounded_nil
  · cases hn

theorem isBounded_take {draft new : Draft} {s : Statement} (hs : s.IsBounded)
    (h : draft.entries.IsBounded) (hn : draft.take s = some new) : new.entries.IsBounded := by
  cases s with
  | pair key value =>
    obtain ⟨entries, he, rfl⟩ := Option.map_eq_some_iff.1 hn
    exact isBounded_atPath (fun _ _ _ h hn => isBounded_addPair hs h hn) h he
  | table key =>
    obtain ⟨entries, he, rfl⟩ := Option.map_eq_some_iff.1 hn
    exact isBounded_atPath (fun _ _ _ h hn => isBounded_openTable h hn) h he
  | series key =>
    obtain ⟨entries, he, rfl⟩ := Option.map_eq_some_iff.1 hn
    exact isBounded_atPath (fun _ _ _ h hn => isBounded_openNext h hn) h he

theorem isBounded_document {t : Text} {entries : Entries} (h : read? t = some entries) :
    entries.IsBounded := by
  obtain ⟨statements, hs, h⟩ := Option.bind_eq_some_iff.1 h
  obtain ⟨draft, hd, h⟩ := Option.bind_eq_some_iff.1 h
  cases h
  have hstatements := isBounded_statements? _ statements hs
  exact foldlM_induction (P := fun draft => draft.entries.IsBounded)
    (fun s hs _ _ => isBounded_take (hstatements s hs)) Entries.isBounded_nil hd

end MimeMail.Toml
