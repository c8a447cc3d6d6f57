import MimeMail.Proofs.Text.Lines
import MimeMail.Proofs.Text.Utf8

namespace MimeMail.Lines

section Returns

variable {α : Type} [BEq α] {ret stop : α}

def withReturns (ret stop : α) (l : List α) : List α :=
  l.flatMap fun a => if a == stop then [ret, stop] else [a]

theorem withReturns_append (l m : List α) :
    withReturns ret stop (l ++ m) = withReturns ret stop l ++ withReturns ret stop m :=
  List.flatMap_append

theorem withReturns_flatten (ls : List (List α)) :
    withReturns ret stop ls.flatten = (ls.map (withReturns ret stop)).flatten := by
  induction ls with
  | nil => rfl
  | cons l ls ih => rw [List.flatten_cons, withReturns_append, ih, List.map_cons, List.flatten_cons]

theorem withReturns_eq_nil_iff {l : List α} : withReturns ret stop l = [] ↔ l = [] := by
  constructor
  · intro h
    cases l with
    | nil => rfl
    | cons a l =>
      rw [withReturns, List.flatMap_cons] at h
      split at h <;> cases h
  · rintro rfl
    rfl

variable [LawfulBEq α]

theorem withReturns_cons_stop (l : List α) :
    withReturns ret stop (stop :: l) = ret :: stop :: withReturns ret stop l := by
  simp [withReturns]

theorem withReturns_of_not_mem {l : List α} (h : stop ∉ l) : withReturns ret stop l = l := by
  induction l with
  | nil => rfl
  | cons a l ih =>
    rw [List.mem_cons, not_or] at h
    have ha : (a == stop) = false := beq_eq_false_iff_ne.mpr (Ne.symm h.1)
    rw [withReturns, List.flatMap_cons, ha]
    exact congrArg (a :: ·) (ih h.2)

theorem withReturns_append_stop {p : List α} (r : List α) (h : stop ∉ p) :
    withReturns ret stop (p ++ stop :: r) = (p ++ [ret]) ++ stop :: withReturns ret stop r := by
  rw [withReturns_append, withReturns_of_not_mem h, withReturns_cons_stop]
  simp

theorem head?_withReturns {l : List α} (h : l.head? ≠ some stop) :
    (withReturns ret stop l).head? = l.head? := by
  cases l with
  | nil => rfl
  | cons a l =>
    have ha : a ≠ stop := by simpa using h
    simp [withReturns, ha]

theorem getLast?_withReturns (l : List α) :
    (withReturns ret stop l).getLast? = l.getLast? := by
  rcases List.eq_nil_or_concat l with rfl | ⟨m, a, rfl⟩
  · rfl
  · rw [List.concat_eq_append, withReturns_append]
    by_cases h : a = stop
    · subst h
      simp [withReturns]
    · simp [withReturns, h]

theorem cutAfter_withReturns (hne : ret ≠ stop) (l : List α) :
    cutAfter stop (withReturns ret stop l) = (cutAfter stop l).map (withReturns ret stop) := by
  induction l using line_induction stop with
  | last p hp =>
    rw [withReturns_of_not_mem hp]
    by_cases hn : p = []
    · subst hn
      rfl
    · rw [cutAfter_of_not_mem hn hp, List.map_singleton, withReturns_of_not_mem hp]
  | line p r hp ih =>
    have hret : stop ∉ p ++ [ret] := by simp [hp, hne.symm]
    rw [withReturns_append_stop r hp, cutAfter_append_stop _ hret, ih, cutAfter_append_stop r hp,
      List.map_cons, withReturns_append_stop [] hp]
    rfl

end Returns

end MimeMail.Lines

namespace MimeMail

abbrev Text.withReturns (t : Text) : Text := Lines.withReturns '\r' '\n' t

abbrev Utf8.withReturns (bs : Bytes) : Bytes := Lines.withReturns 0x0D 0x0A bs

theorem Lines.ofText_withReturns {t : Text} (h : '\r' ∉ t) :
    ofText (Text.withReturns t) = ofText t := by
  induction t using line_induction '\n' with
  | last p hp => rw [Text.withReturns, withReturns_of_not_mem hp]
  | line p r hp ih =>
    simp only [List.mem_append, List.mem_cons, not_or] at h
    have hret : '\n' ∉ p ++ ['\r'] := by simp [hp]
    have hlast : p.getLast? ≠ some '\r' := fun hl => h.1 (List.mem_of_getLast? hl)
    have hbreak : dropBreak (p ++ ['\r'] ++ ['\n']) = p := by
      simpa [lineBreak] using dropBreak_append_lineBreak p
    have hi := ih h.2.2
    rw [ofText] at hi ⊢
    rw [Text.withReturns, withReturns_append_stop r hp, cutAfter_append_stop _ hret, List.map_cons,
      hbreak, hi, ofText, ofText, cutAfter_append_stop r hp, List.map_cons, dropBreak_newline hlast]

namespace Utf8

theorem encode_withReturns (t : Text) : encode (Text.withReturns t) = withReturns (encode t) := by
  unfold Text.withReturns withReturns
  induction t using Lines.line_induction '\n' with
  | last p hp =>
    rw [Lines.withReturns_of_not_mem hp, Lines.withReturns_of_not_mem (newline_not_mem_encode hp)]
  | line p r hp ih =>
    rw [Lines.withReturns_append_stop r hp, encode_append_newline, ih, encode_append_newline,
      Lines.withReturns_append_stop _ (newline_not_mem_encode hp), encode_append]
    rfl

def IsUnix (bs : Bytes) : Prop := ∃ t : Text, '\r' ∉ t ∧ encode t = bs

theorem isUnix_of_decode? {bs : Bytes} (h : (decode? bs).isSome = true) (hr : 0x0D ∉ bs) :
    IsUnix bs := by
  obtain ⟨t, ht⟩ := Option.isSome_iff_exists.mp h
  obtain rfl := decode?_eq_some_iff.mp ht
  refine ⟨t, fun hm => hr ?_, rfl⟩
  exact List.mem_flatMap.mpr ⟨'\r', hm, by decide⟩

namespace IsUnix

theorem nil : IsUnix [] := ⟨[], by simp, rfl⟩

theorem not_mem {bs : Bytes} (h : IsUnix bs) : 0x0D ∉ bs := by
  obtain ⟨t, ht, rfl⟩ := h
  exact fun hm => ht (mem_of_mem_encode (c := '\r') (by decide) hm)

theorem append {p r : Bytes} (hp : IsUnix p) (hr : IsUnix r) : IsUnix (p ++ r) := by
  obtain ⟨s, hs, rfl⟩ := hp
  obtain ⟨t, ht, rfl⟩ := hr
  exact ⟨s ++ t, by simp [hs, ht], encode_append s t⟩

theorem flatten {ls : List Bytes} (h : ∀ l ∈ ls, IsUnix l) : IsUnix ls.flatten := by
  induction ls with
  | nil => exact nil
  | cons l ls ih =>
    rw [List.forall_mem_cons] at h
    exact h.1.append (ih h.2)

theorem of_append_newline {p r : Bytes} (h : IsUnix (p ++ 0x0A :: r)) : IsUnix p ∧ IsUnix r := by
  obtain ⟨t, ht, he⟩ := h
  obtain ⟨s, u, rfl, rfl, rfl⟩ := exists_of_encode_eq_append (c := '\n') (by decide) he
  simp only [List.mem_append, List.mem_cons, not_or] at ht
  exact ⟨⟨s, ht.1, rfl⟩, ⟨u, ht.2.2, rfl⟩⟩

theorem of_cons_newline {r : Bytes} (h : IsUnix (0x0A :: r)) : IsUnix r :=
  (of_append_newline (p := []) h).2

theorem append_newline {p : Bytes} (h : IsUnix p) : IsUnix (p ++ [0x0A]) :=
  h.append ⟨['\n'], by decide, rfl⟩

theorem of_mem_cutAfter {bs line : Bytes} (h : IsUnix bs) (hl : line ∈ Lines.cutAfter 0x0A bs) :
    IsUnix line := by
  induction bs using Lines.line_induction (0x0A : UInt8) with
  | last p hp =>
    by_cases hn : p = []
    · subst hn
      cases hl
    · rw [Lines.cutAfter_of_not_mem hn hp, List.mem_singleton] at hl
      exact hl ▸ h
  | line p r hp ih =>
    rw [Lines.cutAfter_append_stop r hp, List.mem_cons] at hl
    obtain ⟨hpu, hru⟩ := h.of_append_newline
    rcases hl with rfl | hl
    · exact hpu.append_newline
    · exact ih hru hl

end IsUnix

end Utf8

namespace Text

theorem withoutMark_withReturns (t : Text) :
    withoutMark (withReturns t) = withReturns (withoutMark t) := by
  cases t with
  | nil => rfl
  | cons c t =>
    by_cases hc : c = '\uFEFF'
    · subst hc
      rfl
    · rw [withoutMark_cons t hc]
      by_cases hn : c = '\n'
      · subst hn
        exact withoutMark_cons _ (by decide)
      · have hw : withReturns (c :: t) = c :: withReturns t := by
          simp [withReturns, Lines.withReturns, hn]
        rw [hw, withoutMark_cons _ hc]

end Text

namespace Charset

open Utf8 (IsUnix)

theorem decodeRaw_withReturns {bs : Bytes} (h : IsUnix bs) :
    decodeRaw (Utf8.withReturns bs) = Text.withReturns (decodeRaw bs) := by
  obtain ⟨t, -, rfl⟩ := h
  rw [← Utf8.encode_withReturns, decodeRaw_encode, decodeRaw_encode, Text.withoutMark_withReturns]

theorem return_not_mem_decodeRaw {bs : Bytes} (h : IsUnix bs) : '\r' ∉ decodeRaw bs := by
  obtain ⟨t, ht, rfl⟩ := h
  rw [decodeRaw_encode]
  unfold Text.withoutMark
  split
  · exact fun hm => ht (List.mem_cons_of_mem _ hm)
  · exact ht

theorem decodeNamed?_withReturns [Library] {name : Text} {bs : Bytes} (hn : IsUtf8IfKnown name)
    (h : IsUnix bs) :
    (decodeNamed? name (Utf8.withReturns bs)).getD (decodeRaw (Utf8.withReturns bs)) =
      Text.withReturns ((decodeNamed? name bs).getD (decodeRaw bs)) := by
  obtain ⟨t, -, rfl⟩ := h
  rw [← Utf8.encode_withReturns]
  rcases hn.decodeNamed? with hd | hd
  · rw [hd, hd]
  · rw [hd, hd, Text.withoutMark_withReturns]

end Charset

end MimeMail
