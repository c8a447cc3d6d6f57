import MimeMail.Proofs.Content.Delimiters
import MimeMail.Proofs.Content.LineBreaks

/-!
Where the header of an entity ends. Fields are read up to the first empty line, and the body is cut
off after two line breaks of one kind. The two agree exactly if the empty line ends like the line
before it.
-/

namespace MimeMail.Utf8

theorem getLast?_encode {t : Text} {c : Char} (hc : c.toNat < 128)
    (h : (encode t).getLast? = some (UInt8.ofNat c.toNat)) : t.getLast? = some c := by
  rcases List.eq_nil_or_concat t with rfl | ⟨s, d, rfl⟩
  · cases h
  · have hd : encode [d] ≠ [] := mt encode_eq_nil_iff.mp (List.cons_ne_nil d [])
    rw [List.concat_eq_append, encode_append, List.getLast?_append_of_ne_nil _ hd] at h
    have hm := List.mem_singleton.mp (mem_of_mem_encode hc (List.mem_of_getLast? h))
    simp [hm]

end MimeMail.Utf8

namespace MimeMail.Lines

open Multipart (crlf)

theorem encode_dropBreak_newline (p : Text) :
    Utf8.encode (dropBreak (p ++ ['\n'])) = Multipart.dropBreak (Utf8.encode p ++ [0x0A]) := by
  by_cases hr : p.getLast? = some '\r'
  · obtain ⟨q, rfl⟩ := List.getLast?_eq_some_iff.mp hr
    have ht : dropBreak (q ++ ['\r'] ++ ['\n']) = q := by
      simpa [lineBreak] using dropBreak_append_lineBreak q
    have hb : Utf8.encode (q ++ ['\r']) ++ [0x0A] = Utf8.encode q ++ crlf := by
      rw [Utf8.encode_append, List.append_assoc]
      rfl
    rw [ht, hb, Multipart.dropBreak_append_crlf]
  · have hb : (Utf8.encode p).getLast? ≠ some 0x0D :=
      fun hl => hr (Utf8.getLast?_encode (c := '\r') (by decide) hl)
    rw [dropBreak_newline hr, Multipart.dropBreak_append_newline hb]

theorem map_encode_ofText (t : Text) :
    (ofText t).map Utf8.encode = (cutAfter 0x0A (Utf8.encode t)).map Multipart.dropBreak := by
  induction t using cutAfter_induction '\n' with
  | nil => rfl
  | last p hn hp =>
    have hb := Utf8.newline_not_mem_encode hp
    have hl : (Utf8.encode p).getLast? ≠ some 0x0A := fun hl => hb (List.mem_of_getLast? hl)
    rw [ofText_of_not_mem hn hp, cutAfter_of_not_mem (mt Utf8.encode_eq_nil_iff.mp hn) hb,
      List.map_singleton, List.map_singleton, Multipart.dropBreak_of_last hl]
  | line p r hp ih =>
    rw [ofText] at ih ⊢
    rw [cutAfter_append_stop r hp, Utf8.encode_append_newline,
      cutAfter_append_stop _ (Utf8.newline_not_mem_encode hp), List.map_cons, List.map_cons, ih,
      encode_dropBreak_newline, List.map_cons]

section

variable {α : Type} [BEq α] [LawfulBEq α] {stop : α}

theorem ne_nil_of_mem_cutAfter {l line : List α} (h : line ∈ cutAfter stop l) : line ≠ [] := by
  induction l using cutAfter_induction stop with
  | nil => cases h
  | last p hn hp =>
    rw [cutAfter_of_not_mem hn hp, List.mem_singleton] at h
    rwa [h]
  | line p r hp ih =>
    rw [cutAfter_append_stop r hp, List.mem_cons] at h
    rcases h with rfl | h
    · simp
    · exact ih h

theorem eq_of_prefix {p r line : List α} {lines : List (List α)} (hp : stop ∉ p)
    (hr : cutAfter stop r = line :: lines) (h : p ++ [stop] <+: r) : line = p ++ [stop] := by
  obtain ⟨s, rfl⟩ := h
  rw [List.append_assoc, List.singleton_append, cutAfter_append_stop s hp] at hr
  exact (List.cons.inj hr).1.symm

end

end MimeMail.Lines

namespace MimeMail.Entity

open Multipart (crlf dropBreak)

/-- The first empty line of a text, which comes after the lines `before` and `last`. -/
structure IsFirstEmpty (raw : Bytes) (before : List Bytes) (last line : Bytes)
    (after : List Bytes) : Prop where
  lines : Lines.cutAfter 0x0A raw = before ++ last :: line :: after
  ne_nil : ∀ l ∈ before ++ [last], dropBreak l ≠ []
  eq_nil : dropBreak line = []

variable {raw last line : Bytes} {before after : List Bytes}

theorem IsFirstEmpty.line_eq (h : IsFirstEmpty raw before last line after) :
    line = crlf ∨ line = [0x0A] := by
  have hm : line ∈ Lines.cutAfter 0x0A raw := by
    rw [h.lines]
    simp
  have hline := Multipart.isWithoutBreak_dropBreak line
  rw [h.eq_nil] at hline
  rcases hline with hl | ⟨hl, -⟩ | ⟨hl, -⟩
  · exact .inl hl
  · exact .inr hl
  · exact absurd hl (Lines.ne_nil_of_mem_cutAfter hm)

theorem split_crlf_after_newline {p : Bytes} (r : Bytes) (hp : 0x0A ∉ p)
    (hs : ¬ crlf <:+ p ++ [0x0A]) :
    split (p ++ 0x0A :: (crlf ++ r)) =
      (p ++ [0x0A] ++ (split (crlf ++ r)).1, (split (crlf ++ r)).2) := by
  have hl : p.getLast? ≠ some 0x0D := by
    intro hl
    obtain ⟨q, rfl⟩ := List.getLast?_eq_some_iff.mp hl
    exact hs ⟨q, by simp [crlf]⟩
  have hnext : split (0x0A :: (crlf ++ r)) =
      (0x0A :: (split (crlf ++ r)).1, (split (crlf ++ r)).2) := rfl
  rw [split_append hp fun h => absurd h hl, hnext, List.append_assoc]
  rfl

theorem not_prefix_of_line {r l : Bytes} {lines : List Bytes}
    (hr : Lines.cutAfter 0x0A r = l :: lines) (hl : dropBreak l ≠ []) :
    ¬ [0x0A] <+: r ∧ ¬ crlf <+: r := by
  constructor
  · intro h
    rw [Lines.eq_of_prefix (p := []) List.not_mem_nil hr h] at hl
    exact hl rfl
  · intro h
    rw [Lines.eq_of_prefix (p := [0x0D]) (by decide) hr h] at hl
    exact hl rfl

theorem split_of_sameBreak {p s : Bytes} (hp : 0x0A ∉ p) (hline : line = crlf ∨ line = [0x0A])
    {last : Bytes} (hlast : p ++ [0x0A] = last ++ line) :
    split (p ++ 0x0A :: (line ++ s)) = (last, some s) := by
  rcases hline with rfl | rfl
  · have hr : p = last ++ [0x0D] := by
      have hd := congrArg List.dropLast hlast
      simpa [crlf, ← List.append_assoc] using hd
    subst hr
    have hl : 0x0A ∉ last := fun hm => hp (List.mem_append_left _ hm)
    have hs := split_empty_line_crlf s hl
    simpa [crlf] using hs
  · obtain rfl := List.append_cancel_right hlast
    exact split_empty_line s hp

theorem split_firstEmpty (h : IsFirstEmpty raw before last line after) :
    (∀ p, last = p ++ line → split raw = (before.flatten ++ p, some after.flatten)) ∧
      (¬ line <:+ last → ∃ p,
        split raw = (p ++ (split (crlf ++ after.flatten)).1, (split (crlf ++ after.flatten)).2)) := by
  have hline := h.line_eq
  obtain ⟨hlines, hne, -⟩ := h
  induction raw using Lines.cutAfter_induction (0x0A : UInt8) generalizing before with
  | nil => cases before <;> cases hlines
  | last p hn hp =>
    have hlen := congrArg List.length hlines
    rw [Lines.cutAfter_of_not_mem hn hp] at hlen
    simp at hlen
    omega
  | line p r hp ih =>
    rw [Lines.cutAfter_append_stop r hp] at hlines
    cases before with
    | nil =>
      obtain ⟨rfl, hr⟩ := List.cons.inj hlines
      have hr : r = line ++ after.flatten := by
        rw [← Lines.flatten_cutAfter (0x0A : UInt8) r, hr, List.flatten_cons]
      subst hr
      refine ⟨fun q hq => split_of_sameBreak hp hline hq, fun hs => ?_⟩
      rcases hline with rfl | rfl
      · exact ⟨p ++ [0x0A], split_crlf_after_newline _ hp hs⟩
      · exact absurd (List.suffix_append p [0x0A]) hs
    | cons l before =>
      obtain ⟨rfl, hr⟩ := List.cons.inj hlines
      rw [List.cons_append, List.forall_mem_cons] at hne
      obtain ⟨hsame, hother⟩ := ih hr hne.2
      -- The next line is not empty.
      have hnext : ∃ l lines, Lines.cutAfter 0x0A r = l :: lines ∧ dropBreak l ≠ [] := by
        cases before with
        | nil => exact ⟨last, _, hr, hne.2 last (by simp)⟩
        | cons l before => exact ⟨l, _, hr, hne.2 l (by simp)⟩
      obtain ⟨next, lines, hnl, hn⟩ := hnext
      obtain ⟨hpn, hpc⟩ := not_prefix_of_line hnl hn
      rw [split_line hp hpn hpc]
      constructor
      · intro q hq
        rw [hsame q hq]
        simp
      · intro hs
        obtain ⟨q, hq⟩ := hother hs
        refine ⟨p ++ 0x0A :: q, ?_⟩
        rw [hq]
        simp

theorem split_crlf_ne (r : Bytes) : (split (crlf ++ r)).2 ≠ some r := by
  intro hs
  rcases eq_of_split (rfl : split (crlf ++ r) = (_, _)) with ⟨hn, -⟩ | ⟨b, hb, hr⟩
  · rw [hn] at hs
    cases hs
  · obtain rfl := Option.some.inj (hb.symm.trans hs)
    rcases hr with hr | hr
    · generalize (split (crlf ++ b)).1 = head at hr
      have hc : crlf = head ++ [0x0A, 0x0A] := List.append_cancel_right (by simpa using hr)
      cases head with
      | nil => exact absurd hc (by decide)
      | cons c head => simpa [crlf] using congrArg List.length hc
    · have hlen := congrArg List.length hr
      simp only [List.length_append] at hlen
      simp [crlf] at hlen
      omega

theorem map_encode_takeWhile (t : Text) :
    ((Lines.ofText t).takeWhile (!·.isEmpty)).map Utf8.encode =
      ((Lines.cutAfter 0x0A (Utf8.encode t)).map dropBreak).takeWhile (!·.isEmpty) := by
  have hempty : ((!·.isEmpty) : Bytes → Bool) ∘ Utf8.encode = (!·.isEmpty) := by
    funext l
    rw [Function.comp_apply, Bool.not_inj_iff, Bool.eq_iff_iff, List.isEmpty_iff, List.isEmpty_iff,
      Utf8.encode_eq_nil_iff]
  rw [← Lines.map_encode_ofText, List.takeWhile_map, hempty]

/-- The body is what follows the first empty line exactly if that line ends like the line before it;
then no byte is lost between the header and the body. The lines before it are those that fields are
read from. -/
theorem split_firstEmpty_iff (h : IsFirstEmpty raw before last line after) :
    ((split raw).2 = some after.flatten ↔ line <:+ last) ∧
      (∀ p, last = p ++ line → split raw = (before.flatten ++ p, some after.flatten)) ∧
      ∀ t, Utf8.encode t = raw →
        ((Lines.ofText t).takeWhile (!·.isEmpty)).map Utf8.encode =
          (before ++ [last]).map dropBreak := by
  obtain ⟨hsame, hother⟩ := split_firstEmpty h
  refine ⟨⟨fun hs => ?_, ?_⟩, hsame, ?_⟩
  · by_contra hne
    obtain ⟨p, hp⟩ := hother hne
    rw [hp] at hs
    exact split_crlf_ne _ hs
  · rintro ⟨p, hp⟩
    rw [hsame p hp.symm]
  · rintro t rfl
    have hlines : Lines.cutAfter 0x0A (Utf8.encode t) = (before ++ [last]) ++ line :: after := by
      rw [h.lines]
      simp
    have hall : ∀ l ∈ (before ++ [last]).map dropBreak, (!l.isEmpty) = true := by
      intro l hl
      obtain ⟨m, hm, rfl⟩ := List.mem_map.mp hl
      simpa using h.ne_nil m hm
    rw [map_encode_takeWhile, hlines, List.map_append, List.takeWhile_append_of_pos hall, List.map_cons,
      h.eq_nil]
    simp

theorem isFirstEmpty_crlf_newline :
    IsFirstEmpty (Utf8.encode "A: b\r\nC: d\r\n\nbody\n".toList) [Utf8.encode "A: b\r\n".toList]
      (Utf8.encode "C: d\r\n".toList) [0x0A] [Utf8.encode "body\n".toList] where
  lines := by decide +kernel
  ne_nil := by decide +kernel
  eq_nil := by decide +kernel

theorem split_firstEmpty_iff_mixed :
    (split (Utf8.encode "A: b\r\nC: d\r\n\nbody\n".toList)).2 =
      some (Utf8.encode "body\n".toList) :=
  (split_firstEmpty_iff isFirstEmpty_crlf_newline).1.mpr (by decide +kernel)

theorem body_lost_after_newline :
    IsFirstEmpty (Utf8.encode "A: b\n\r\nbody".toList) [] (Utf8.encode "A: b\n".toList) crlf
        [Utf8.encode "body".toList] ∧
      split (Utf8.encode "A: b\n\r\nbody".toList) =
        (Utf8.encode "A: b\n\r\nbody".toList, none) := by
  refine ⟨⟨?_, ?_, ?_⟩, ?_⟩ <;> decide +kernel

end MimeMail.Entity
