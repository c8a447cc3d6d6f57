import MimeMail.Proofs.Content.LineBreaks

/-!
Where a message is cut. Two line breaks of one kind in a row are a separator, and the cut is at the
first separator there is. A search over positions finds the same cut and never looks outside of the
message.
-/

namespace MimeMail.Entity

open Multipart (crlf)

def newlines : Bytes := [0x0A, 0x0A]

def IsSeparator (sep : Bytes) : Prop := sep = newlines ∨ sep = crlf ++ crlf

section

variable {raw sep body : Bytes}

theorem IsSeparator.ne_nil (h : IsSeparator sep) : sep ≠ [] := by
  rcases h with rfl | rfl <;> exact List.cons_ne_nil _ _

theorem split_separator (h : IsSeparator sep) (r : Bytes) : split (sep ++ r) = ([], some r) := by
  rcases h with rfl | rfl <;> rfl

theorem exists_split (h : IsSeparator sep) (hp : sep <+: raw) : ∃ r, split raw = ([], some r) := by
  obtain ⟨r, rfl⟩ := hp
  exact ⟨r, split_separator h r⟩

theorem split_cons {b : UInt8} {r : Bytes} (h : ∀ sep, IsSeparator sep → ¬ sep <+: b :: r) :
    split (b :: r) = (b :: (split r).1, (split r).2) := by
  rw [split]
  · rintro s rfl rfl
    exact h newlines (.inl rfl) ⟨s, rfl⟩
  · rintro s rfl rfl
    exact h (crlf ++ crlf) (.inr rfl) ⟨s, rfl⟩

theorem exists_separator (h : (split raw).2 = some body) :
    ∃ head sep, split raw = (head, some body) ∧ IsSeparator sep ∧ raw = head ++ sep ++ body := by
  have hsplit : split raw = ((split raw).1, some body) := by rw [← h]
  generalize (split raw).1 = head at hsplit
  rcases eq_of_split hsplit with ⟨hb, -⟩ | ⟨b, hb, hraw⟩
  · cases hb
  · cases hb
    rcases hraw with hraw | hraw
    · exact ⟨head, newlines, hsplit, .inl rfl, by simp [hraw, newlines]⟩
    · exact ⟨head, crlf ++ crlf, hsplit, .inr rfl, by simp [hraw]⟩

theorem split_eq_self (h : (split raw).2 = none) : split raw = (raw, none) := by
  rcases eq_of_split (Prod.eta (split raw)).symm with ⟨-, hhead⟩ | ⟨b, hb, -⟩
  · rw [← Prod.eta (split raw), h, hhead]
  · rw [h] at hb
    cases hb

theorem not_prefix_drop {i : ℕ} (hi : i < (split raw).1.length) (hsep : IsSeparator sep) :
    ¬ sep <+: raw.drop i := by
  induction raw generalizing i with
  | nil => exact absurd hi (Nat.not_lt_zero i)
  | cons b r ih =>
    by_cases h : ∃ s, IsSeparator s ∧ s <+: b :: r
    · obtain ⟨s, hs, t, ht⟩ := h
      rw [← ht, split_separator hs] at hi
      exact absurd hi (Nat.not_lt_zero i)
    · have hnone : ∀ s, IsSeparator s → ¬ s <+: b :: r := fun s hs hp => h ⟨s, hs, hp⟩
      cases i with
      | zero => exact hnone sep hsep
      | succ i =>
        rw [split_cons hnone, List.length_cons, Nat.add_lt_add_iff_right] at hi
        exact ih hi

theorem split_eq_none_iff : (split raw).2 = none ↔ ∀ sep, IsSeparator sep → ¬ sep <:+: raw := by
  constructor
  · rintro h sep hsep ⟨s, t, rfl⟩
    have hlen : s.length < (split (s ++ sep ++ t)).1.length := by
      have hpos := List.length_pos_iff.mpr hsep.ne_nil
      rw [split_eq_self h, List.length_append, List.length_append]
      omega
    apply not_prefix_drop hlen hsep
    rw [List.append_assoc, List.drop_left]
    exact List.prefix_append sep t
  · intro h
    cases hb : (split raw).2 with
    | none => rfl
    | some body =>
      obtain ⟨head, sep, -, hsep, hraw⟩ := exists_separator hb
      exact absurd ⟨head, body, hraw.symm⟩ (h sep hsep)

end

/-- Whether a pattern stands at a position. Here and below `none` stands for a look outside of the
bytes. -/
def standsAt? (raw : Bytes) (i : ℕ) : Bytes → Option Bool
  | [] => some true
  | b :: pattern => do
    let c ← raw[i]?
    if c = b then standsAt? raw (i + 1) pattern else some false

def returnsAt? (raw : Bytes) (i : ℕ) : Option Bool :=
  if i + 3 < raw.length then standsAt? raw i (crlf ++ crlf) else some false

def findSeparator? (raw : Bytes) : ℕ → ℕ → Option (Option ℕ)
  | 0, _ => some none
  | n + 1, i => do
    if ← standsAt? raw i newlines then some (some i)
    else if ← returnsAt? raw i then some (some i)
    else findSeparator? raw n (i + 1)

def slice? (raw : Bytes) (start stop : ℕ) : Option Bytes :=
  if start ≤ stop ∧ stop ≤ raw.length then some ((raw.take stop).drop start) else none

def splitAtPosition? (raw : Bytes) : Option (Bytes × Option Bytes) := do
  match ← findSeparator? raw (raw.length - 1) 0 with
  | none => some (raw, none)
  | some stop =>
    let b ← raw[stop]?
    let head ← slice? raw 0 stop
    let body ← slice? raw (if b = 0x0A then stop + 2 else stop + 4) raw.length
    some (head, some body)

section

variable {raw : Bytes}

theorem standsAt?_eq (pattern : Bytes) (i : ℕ) (h : i + pattern.length ≤ raw.length) :
    standsAt? raw i pattern = some (decide (pattern <+: raw.drop i)) := by
  induction pattern generalizing i with
  | nil => simp [standsAt?]
  | cons b pattern ih =>
    rw [List.length_cons] at h
    have hi : i < raw.length := by omega
    have hd := List.drop_eq_getElem_cons hi
    rw [standsAt?, List.getElem?_eq_getElem hi, hd]
    simp only [List.cons_prefix_cons]
    by_cases hb : raw[i] = b
    · simp [hb, ih (i + 1) (by omega)]
    · simp [hb, Ne.symm hb]

theorem returnsAt?_eq (i : ℕ) :
    returnsAt? raw i = some (decide (crlf ++ crlf <+: raw.drop i)) := by
  rw [returnsAt?]
  split
  · next h => exact standsAt?_eq (crlf ++ crlf) i h
  · next h =>
    have hshort : ¬ crlf ++ crlf <+: raw.drop i := by
      intro hp
      have hlen := hp.length_le
      rw [List.length_drop] at hlen
      simp only [crlf, List.length_append, List.length_cons, List.length_nil] at hlen
      omega
    rw [decide_eq_false hshort]

theorem slice?_eq {start stop : ℕ} (h : start ≤ stop) (hs : stop ≤ raw.length) :
    slice? raw start stop = some ((raw.take stop).drop start) := if_pos ⟨h, hs⟩

theorem findSeparator?_eq (n i : ℕ) (h : i + n = raw.length - 1) :
    findSeparator? raw n i = some ((split (raw.drop i)).2.map fun _ =>
      i + (split (raw.drop i)).1.length) := by
  induction n generalizing i with
  | zero =>
    have hnone : (split (raw.drop i)).2 = none := by
      rw [split_eq_none_iff]
      rintro sep hsep hinfix
      have hlen := hinfix.length_le
      rw [List.length_drop] at hlen
      rcases hsep with rfl | rfl <;> simp [newlines, crlf] at hlen <;> omega
    rw [findSeparator?, hnone]
    rfl
  | succ n ih =>
    have hi : i < raw.length := by omega
    have hlook : i + newlines.length ≤ raw.length := by
      simp only [newlines, List.length_cons, List.length_nil]
      omega
    rw [findSeparator?, standsAt?_eq newlines i hlook, returnsAt?_eq]
    by_cases hn : newlines <+: raw.drop i
    · obtain ⟨r, hr⟩ := exists_split (.inl rfl) hn
      simp [hn, hr]
    by_cases hc : crlf ++ crlf <+: raw.drop i
    · obtain ⟨r, hr⟩ := exists_split (.inr rfl) hc
      simp [hn, hc, hr]
    -- No separator stands here, so the header of the rest starts with this byte.
    have hd := List.drop_eq_getElem_cons hi
    have hsplit : split (raw.drop i) =
        (raw[i] :: (split (raw.drop (i + 1))).1, (split (raw.drop (i + 1))).2) := by
      rw [hd]
      apply split_cons
      rw [← hd]
      rintro sep (rfl | rfl)
      · exact hn
      · exact hc
    have hnext := ih (i + 1) (by omega)
    simp only [hn, hc, decide_false, Option.bind_eq_bind, Option.bind_some, Bool.false_eq_true,
      if_false, hnext, hsplit, List.length_cons]
    congr 2
    funext _
    omega

theorem splitAtPosition?_eq (raw : Bytes) : splitAtPosition? raw = some (split raw) := by
  have hfind := findSeparator?_eq (raw.length - 1) 0 (Nat.zero_add _)
  rw [List.drop_zero] at hfind
  rw [splitAtPosition?, hfind]
  cases hb : (split raw).2 with
  | none =>
    rw [split_eq_self hb]
    rfl
  | some body =>
    obtain ⟨head, sep, hsplit, hsep, hraw⟩ := exists_separator hb
    rw [hsplit]
    have hhead : slice? raw 0 head.length = some head := by
      rw [slice?_eq (Nat.zero_le _) (by simp [hraw]), hraw, List.append_assoc, List.take_left,
        List.drop_zero]
    have hbody : slice? raw (head.length + sep.length) raw.length = some body := by
      rw [slice?_eq (by simp [hraw]) le_rfl, List.take_length, hraw, ← List.length_append,
        List.drop_left]
    have hlook : raw[head.length]? = sep.head? := by
      rw [← List.head?_drop, hraw, List.append_assoc, List.drop_left,
        List.head?_append_of_ne_nil _ hsep.ne_nil]
    rcases hsep with rfl | rfl
    · have hbody : slice? raw (head.length + 2) raw.length = some body := hbody
      simp [hlook, hhead, newlines, hbody]
    · have hbody : slice? raw (head.length + 4) raw.length = some body := hbody
      simp [hlook, hhead, crlf, hbody]

theorem split_first_separator (raw : Bytes) :
    ((∀ sep, IsSeparator sep → ¬ sep <:+: raw) → split raw = (raw, none)) ∧
      ((∃ sep, IsSeparator sep ∧ sep <:+: raw) →
        ∃ head sep body, split raw = (head, some body) ∧ IsSeparator sep ∧
          raw = head ++ sep ++ body ∧
          ∀ i < head.length, ∀ s, IsSeparator s → ¬ s <+: raw.drop i) ∧
      splitAtPosition? raw = some (split raw) := by
  refine ⟨fun h => split_eq_self (split_eq_none_iff.mpr h), ?_, splitAtPosition?_eq raw⟩
  rintro ⟨sep, hsep, hinfix⟩
  cases hb : (split raw).2 with
  | none => exact absurd hinfix (split_eq_none_iff.mp hb sep hsep)
  | some body =>
    obtain ⟨head, first, hsplit, hfirst, hraw⟩ := exists_separator hb
    refine ⟨head, first, body, hsplit, hfirst, hraw, fun i hi s hs => not_prefix_drop ?_ hs⟩
    rwa [hsplit]

end

theorem split_first_separator_mixed :
    (∃ sep, IsSeparator sep ∧ sep <:+: Utf8.encode "A: b\r\n\nc\r\n\r\nd".toList) ∧
      ∃ sep, IsSeparator sep ∧ split (Utf8.encode "A: b\r\n\nc\r\n\r\nd".toList) =
        (Utf8.encode "A: b\r".toList, some (Utf8.encode "c\r\n\r\nd".toList)) ∧
        ∀ i < 5, ∀ s, IsSeparator s →
          ¬ s <+: (Utf8.encode "A: b\r\n\nc\r\n\r\nd".toList).drop i := by
  have hseparator : ∃ sep, IsSeparator sep ∧
      sep <:+: Utf8.encode "A: b\r\n\nc\r\n\r\nd".toList :=
    ⟨newlines, .inl rfl, by decide +kernel⟩
  have hread : split (Utf8.encode "A: b\r\n\nc\r\n\r\nd".toList) =
      (Utf8.encode "A: b\r".toList, some (Utf8.encode "c\r\n\r\nd".toList)) := by
    decide +kernel
  obtain ⟨head, sep, body, hsplit, hsep, -, hfirst⟩ := (split_first_separator _).2.1 hseparator
  rw [hread] at hsplit
  cases hsplit
  exact ⟨hseparator, sep, hsep, hread, hfirst⟩

end MimeMail.Entity
