import MimeMail.Proofs.Content.Trees
import MimeMail.Proofs.Text.LineBreaks

namespace MimeMail.Multipart

open Utf8 (IsUnix withReturns)

theorem dropBreak_withReturns {bs : Bytes} (h : 0x0D ∉ bs) :
    dropBreak (withReturns bs) = withReturns (dropBreak bs) := by
  by_cases hl : bs.getLast? = some 0x0A
  · obtain ⟨p, rfl⟩ := List.getLast?_eq_some_iff.mp hl
    have hp : 0x0D ∉ p := fun hm => h (List.mem_append_left _ hm)
    have hw : withReturns (p ++ [0x0A]) = withReturns p ++ crlf := Lines.withReturns_append p [0x0A]
    have hr : p.getLast? ≠ some 0x0D := fun hm => hp (List.mem_of_getLast? hm)
    rw [dropBreak_append_newline hr, hw, dropBreak_append_crlf]
  · have hw : (withReturns bs).getLast? ≠ some 0x0A := by
      rwa [withReturns, Lines.getLast?_withReturns]
    rw [dropBreak_of_last hl, dropBreak_of_last hw]

theorem isUnix_dropBreak {bs : Bytes} (h : IsUnix bs) : IsUnix (dropBreak bs) := by
  by_cases hl : bs.getLast? = some 0x0A
  · obtain ⟨p, rfl⟩ := List.getLast?_eq_some_iff.mp hl
    have hp : IsUnix p := h.of_append_newline.1
    have hr : p.getLast? ≠ some 0x0D := fun hm => hp.not_mem (List.mem_of_getLast? hm)
    rwa [dropBreak_append_newline hr]
  · rwa [dropBreak_of_last hl]

variable {boundary : Text}

theorem delimiter?_withReturns {line : Bytes} (h : 0x0A ∉ line.dropLast) :
    delimiter? boundary (withReturns line) = delimiter? boundary line := by
  by_cases hl : line.getLast? = some 0x0A
  · obtain ⟨p, rfl⟩ := List.getLast?_eq_some_iff.mp hl
    rw [List.dropLast_concat] at h
    have hw : withReturns (p ++ [0x0A]) = p ++ crlf := by
      rw [withReturns, Lines.withReturns_append_stop [] h, List.append_assoc]
      rfl
    have hn : (p ++ [0x0A]).rdropWhile isBlank = p.rdropWhile isBlank :=
      Text.rdropWhile_append_of_all (by simp [isBlank])
    rw [delimiter?_eq, delimiter?_eq, hw, rdropWhile_append_crlf, hn]
  · have hn : 0x0A ∉ line := by
      rcases List.eq_nil_or_concat line with rfl | ⟨p, b, rfl⟩
      · exact List.not_mem_nil
      · simpa [and_comm, eq_comm] using And.intro h hl
    rw [withReturns, Lines.withReturns_of_not_mem hn]

theorem dropBreak_lines {lines : List Bytes} (h : ∀ line ∈ lines, IsUnix line) :
    dropBreak (lines.map withReturns).reverse.flatten =
        withReturns (dropBreak lines.reverse.flatten) ∧
      IsUnix (dropBreak lines.reverse.flatten) := by
  have hu : IsUnix lines.reverse.flatten := .flatten (by simpa using h)
  rw [← List.map_reverse, ← Lines.withReturns_flatten]
  exact ⟨dropBreak_withReturns hu.not_mem, isUnix_dropBreak hu⟩

theorem go_withReturns {lines : List Bytes} (part : Option (List Bytes))
    (hlines : ∀ line ∈ lines, IsUnix line ∧ 0x0A ∉ line.dropLast)
    (hpart : ∀ before ∈ part, ∀ line ∈ before, IsUnix line) :
    split.go boundary (part.map (·.map withReturns)) (lines.map withReturns) =
        (split.go boundary part lines).map withReturns ∧
      ∀ raw ∈ split.go boundary part lines, IsUnix raw := by
  induction lines generalizing part with
  | nil => exact ⟨rfl, fun _ h => absurd h List.not_mem_nil⟩
  | cons line lines ih =>
    rw [List.forall_mem_cons] at hlines
    rw [List.map_cons, split.go, split.go, delimiter?_withReturns hlines.1.2]
    cases hd : delimiter? boundary line with
    | none =>
      have hcons : ∀ before ∈ part.map (line :: ·), ∀ line ∈ before, IsUnix line := by
        intro before hb
        obtain ⟨before, hm, rfl⟩ := Option.map_eq_some_iff.mp hb
        exact List.forall_mem_cons.mpr ⟨hlines.1.1, hpart before hm⟩
      have hi := ih _ hlines.2 hcons
      rw [Option.map_map] at hi ⊢
      exact hi
    | some kind =>
      -- The line ends the open part, and what follows no longer depends on it.
      obtain ⟨rest, hrest, hreturns, hunix⟩ : ∃ rest,
          (if kind = .closing then [] else split.go boundary (some []) lines) = rest ∧
          (if kind = .closing then [] else split.go boundary (some []) (lines.map withReturns)) =
            rest.map withReturns ∧ ∀ raw ∈ rest, IsUnix raw := by
        split
        · exact ⟨[], rfl, rfl, by simp⟩
        · obtain ⟨hgo, hunix⟩ := ih (some []) hlines.2 (by simp)
          exact ⟨_, rfl, hgo, hunix⟩
      dsimp only
      rw [hrest, hreturns]
      cases part with
      | none => exact ⟨rfl, hunix⟩
      | some before =>
        obtain ⟨hbreak, hbefore⟩ := dropBreak_lines (hpart before rfl)
        exact ⟨congrArg (· :: _) hbreak, List.forall_mem_cons.mpr ⟨hbefore, hunix⟩⟩

theorem split_withReturns (boundary : Text) {body : Bytes} (h : IsUnix body) :
    split boundary (withReturns body) = (split boundary body).map withReturns ∧
      ∀ raw ∈ split boundary body, IsUnix raw := by
  rw [split, split, withReturns, Lines.cutAfter_withReturns (by decide)]
  refine go_withReturns none (fun line hl => ?_) (by simp)
  exact ⟨h.of_mem_cutAfter hl, Lines.not_mem_of_mem_cutAfter hl⟩

end MimeMail.Multipart

namespace MimeMail.Entity

open Multipart (crlf)
open Utf8 (IsUnix withReturns)

theorem eq_of_split {raw head : Bytes} {body? : Option Bytes} (h : split raw = (head, body?)) :
    (body? = none ∧ head = raw) ∨
      ∃ body, body? = some body ∧
        (raw = head ++ 0x0A :: 0x0A :: body ∨ raw = head ++ (crlf ++ (crlf ++ body))) := by
  fun_induction split raw generalizing head with
  | case1 =>
    cases h
    exact .inl ⟨rfl, rfl⟩
  | case2 r =>
    cases h
    exact .inr ⟨r, rfl, .inl rfl⟩
  | case3 r =>
    cases h
    exact .inr ⟨r, rfl, .inr rfl⟩
  | case4 b r hn hc ih =>
    cases h
    rcases ih rfl with ⟨hb, hh⟩ | ⟨body, hb, hr⟩
    · exact .inl ⟨hb, by rw [hh]⟩
    · refine .inr ⟨body, hb, hr.imp (fun hr => ?_) fun hr => ?_⟩
      · rw [List.cons_append, ← hr]
      · rw [List.cons_append, ← hr]

theorem isUnix_split {raw : Bytes} (h : IsUnix raw) :
    IsUnix (split raw).1 ∧ ∀ body ∈ (split raw).2, IsUnix body := by
  rcases eq_of_split (rfl : split raw = (_, _)) with ⟨hb, hh⟩ | ⟨body, hb, hr | hr⟩
  · rw [hb, hh]
    exact ⟨h, by simp⟩
  · rw [hr] at h
    obtain ⟨hhead, hbody⟩ := h.of_append_newline
    rw [hb]
    exact ⟨hhead, by simpa using hbody.of_cons_newline⟩
  · have hm : 0x0D ∈ raw := by
      rw [hr]
      simp [crlf]
    exact absurd hm h.not_mem

theorem not_prefix_of_head {r : Bytes} (hn : r.head? ≠ some 0x0A) (hc : r.head? ≠ some 0x0D) :
    ¬ [0x0A] <+: r ∧ ¬ crlf <+: r := by
  constructor
  · rintro ⟨s, rfl⟩
    exact hn rfl
  · rintro ⟨s, rfl⟩
    exact hc rfl

theorem not_prefix_withReturns {r : Bytes} (h : 0x0D ∉ r) (hn : r.head? ≠ some 0x0A) :
    (¬ [0x0A] <+: r ∧ ¬ crlf <+: r) ∧
      ¬ [0x0A] <+: withReturns r ∧ ¬ crlf <+: withReturns r := by
  have hc : r.head? ≠ some 0x0D := fun hh => h (List.mem_of_head? hh)
  have hw : (withReturns r).head? = r.head? := Lines.head?_withReturns hn
  exact ⟨not_prefix_of_head hn hc, not_prefix_of_head (by rwa [hw]) (by rwa [hw])⟩

theorem split_withReturns {raw : Bytes} (h : 0x0D ∉ raw) :
    split (withReturns raw) = (withReturns (split raw).1, (split raw).2.map withReturns) := by
  induction raw using Lines.line_induction (0x0A : UInt8) with
  | last p hp =>
    rw [split_of_not_mem hp, withReturns, Lines.withReturns_of_not_mem hp, split_of_not_mem hp]
    rfl
  | line p r hp ih =>
    simp only [List.mem_append, List.mem_cons, not_or] at h
    have hw : withReturns (p ++ 0x0A :: r) = (p ++ [0x0D]) ++ 0x0A :: withReturns r :=
      Lines.withReturns_append_stop r hp
    -- The line is followed by an empty one, or the header goes on.
    by_cases hr : r.head? = some 0x0A
    · obtain ⟨s, rfl⟩ := List.head?_eq_some_iff.mp hr
      have hs : withReturns (p ++ 0x0A :: 0x0A :: s) = p ++ crlf ++ crlf ++ withReturns s := by
        have hcons : withReturns (0x0A :: s) = crlf ++ withReturns s :=
          Lines.withReturns_cons_stop s
        rw [hw, hcons]
        simp [crlf]
      have hhead : withReturns p = p := Lines.withReturns_of_not_mem hp
      rw [hs, split_empty_line_crlf _ hp, split_empty_line _ hp, hhead, Option.map_some]
    · have hret : 0x0A ∉ p ++ [0x0D] := by simp [hp]
      obtain ⟨⟨hn, hc⟩, hwn, hwc⟩ := not_prefix_withReturns h.2.2 hr
      have hhead : withReturns (p ++ 0x0A :: (split r).1) =
          (p ++ [0x0D]) ++ 0x0A :: withReturns (split r).1 := Lines.withReturns_append_stop _ hp
      rw [hw, split_line hret hwn hwc, split_line hp hn hc, ih h.2.2, hhead]

theorem ofText_decodeRaw_withReturns {head : Bytes} (h : IsUnix head) :
    Lines.ofText (Charset.decodeRaw (withReturns head)) =
      Lines.ofText (Charset.decodeRaw head) := by
  rw [Charset.decodeRaw_withReturns h]
  exact Lines.ofText_withReturns (Charset.return_not_mem_decodeRaw h)

theorem fields_decodeRaw_withReturns {head : Bytes} (h : IsUnix head) :
    FieldMap.ofText (Charset.decodeRaw (withReturns head)) =
      FieldMap.ofText (Charset.decodeRaw head) := by
  unfold FieldMap.ofText Field.ofText
  rw [ofText_decodeRaw_withReturns h]

theorem ofPart?_withReturns {raw : Bytes} (h : IsUnix raw) :
    ofPart? (withReturns raw) = (ofPart? raw).map (fun entity => (entity.1, withReturns entity.2)) ∧
      ∀ entity ∈ ofPart? raw, IsUnix entity.2 := by
  by_cases hne : raw = []
  · subst hne
    exact ⟨rfl, by simp [ofPart?]⟩
  by_cases hr : raw.head? = some 0x0A
  · obtain ⟨body, rfl⟩ := List.head?_eq_some_iff.mp hr
    have hw : withReturns (0x0A :: body) = 0x0D :: 0x0A :: withReturns body :=
      Lines.withReturns_cons_stop body
    rw [hw]
    exact ⟨rfl, by simpa [ofPart?] using h.of_cons_newline⟩
  · have hwne : withReturns raw ≠ [] := mt Lines.withReturns_eq_nil_iff.mp hne
    obtain ⟨⟨hn, hc⟩, hwn, hwc⟩ := not_prefix_withReturns h.not_mem hr
    obtain ⟨hhead, hbody⟩ := isUnix_split h
    rw [ofPart?_eq hne hn hc, ofPart?_eq hwne hwn hwc, split_withReturns h.not_mem]
    dsimp only
    rw [fields_decodeRaw_withReturns hhead, ofText_decodeRaw_withReturns hhead]
    cases hs : (split raw).2 with
    | some body => exact ⟨rfl, by simpa [hs] using hbody⟩
    | none =>
      dsimp only [Option.map_none]
      split
      · exact ⟨rfl, by simpa using IsUnix.nil⟩
      · exact ⟨rfl, by simp⟩

end MimeMail.Entity

namespace MimeMail.Content

open Utf8 (IsUnix withReturns)

/-- Parts of one type, charset and encoding, the text of the second with returns. Nothing is said of
texts in a charset other than UTF-8. -/
structure SameText (entry other : Text × Part) : Prop where
  mediaType : other.1 = entry.1
  charset : other.2.charset = entry.2.charset
  encoding : other.2.encoding = entry.2.encoding
  body : Charset.IsUtf8IfKnown entry.2.charset → other.2.body = Text.withReturns entry.2.body

theorem sameText_raw (mediaType encoding : Text) {body : Bytes} (h : IsUnix body) :
    SameText (mediaType, { encoding, body := Charset.decodeRaw body })
      (mediaType, { encoding, body := Charset.decodeRaw (withReturns body) }) :=
  ⟨rfl, rfl, rfl, fun _ => Charset.decodeRaw_withReturns h⟩

inductive SameComponent : Component → Component → Prop
  | leaf {mediaType : Text} {part part' : Part} (h : SameText (mediaType, part) (mediaType, part')) :
      SameComponent (.leaf mediaType part) (.leaf mediaType part')
  | nested {boundary : Text} {body : Bytes} (h : IsUnix body) :
      SameComponent (.nested boundary body) (.nested boundary (withReturns body))

theorem sameText_insertSorted {mediaType : Text} {part part' : Part}
    (hp : SameText (mediaType, part) (mediaType, part')) {l m : List (Text × Part)}
    (h : List.Forall₂ SameText l m) :
    List.Forall₂ SameText (insertSorted mediaType part l) (insertSorted mediaType part' m) := by
  induction h with
  | nil => exact .cons hp .nil
  | cons he ht ih =>
    rw [insertSorted, insertSorted, he.mediaType]
    split
    · exact .cons hp (.cons he ht)
    · split
      · exact .cons hp ht
      · exact .cons he ih

theorem sameText_ofParts {l m : List (Text × Part)} (h : List.Forall₂ SameText l m) :
    List.Forall₂ SameText (ofParts l).parts (ofParts m).parts := by
  refine List.rel_foldl (P := fun c d : Content => List.Forall₂ SameText c.parts d.parts) ?_ .nil h
  rintro c d hcd ⟨mediaType, part⟩ ⟨other, part'⟩ he
  obtain rfl : other = mediaType := he.mediaType
  exact sameText_insertSorted he hcd

variable [Charset.Library]

theorem sameText_leaf (mediaType : Text) (fields : FieldMap) {body : Bytes} (h : IsUnix body) :
    SameText (mediaType, leaf fields body) (mediaType, leaf fields (withReturns body)) := by
  refine ⟨rfl, rfl, rfl, ?_⟩
  unfold leaf
  dsimp only
  cases (fields.mediaType?.bind (·.param? "charset".toList)).filter (!·.isEmpty) with
  | none => exact fun _ => Charset.decodeRaw_withReturns h
  | some name => exact fun hn => Charset.decodeNamed?_withReturns hn h

theorem sameComponent {raw : Bytes} (h : IsUnix raw) :
    Option.Rel SameComponent (component? raw) (component? (withReturns raw)) := by
  obtain ⟨hpart, hbody⟩ := Entity.ofPart?_withReturns h
  unfold component?
  rw [hpart]
  cases he : Entity.ofPart? raw with
  | none => exact .none
  | some entity =>
    have hb := hbody entity he
    dsimp only [Option.map_some]
    split
    · exact .some (.leaf (sameText_raw _ _ hb))
    · split
      · split
        · exact .none
        · exact .some (.nested hb)
      · exact .some (.leaf (sameText_leaf _ _ hb))

theorem sameText_leavesOf {inner : Text → Bytes → List (Text × Part)}
    (hinner : ∀ boundary {body}, IsUnix body →
      List.Forall₂ SameText (inner boundary body) (inner boundary (withReturns body)))
    {raw : Bytes} (h : IsUnix raw) :
    List.Forall₂ SameText (leavesOf inner raw) (leavesOf inner (withReturns raw)) := by
  have hc := sameComponent h
  unfold leavesOf
  generalize component? raw = c, component? (withReturns raw) = c' at hc ⊢
  cases hc with
  | none => exact .nil
  | some hc =>
    cases hc with
    | leaf h => exact .cons h .nil
    | nested h => exact hinner _ h

theorem sameText_leaves (depth : ℕ) (boundary : Text) {body : Bytes} (h : IsUnix body) :
    List.Forall₂ SameText (leaves depth boundary body)
      (leaves depth boundary (withReturns body)) := by
  induction depth generalizing boundary body with
  | zero => exact .nil
  | succ depth ih =>
    obtain ⟨hsplit, hparts⟩ := Multipart.split_withReturns boundary h
    rw [leaves, leaves, hsplit, List.flatMap_map]
    have hsame : List.Forall₂ (fun raw other => raw = other ∧ IsUnix raw)
        (Multipart.split boundary body) (Multipart.split boundary body) :=
      List.forall₂_same.mpr fun raw hr => ⟨rfl, hparts raw hr⟩
    refine List.rel_flatMap hsame ?_
    rintro raw _ ⟨rfl, hr⟩
    exact sameText_leavesOf ih hr

theorem sameText_ofBody (depth : ℕ) (d : Descriptor) {body : Bytes} (h : IsUnix body) :
    List.Forall₂ SameText (ofBody depth d body).parts
      (ofBody depth d (withReturns body)).parts := by
  have hsingle (mediaType encoding : Text) :
      List.Forall₂ SameText (single mediaType encoding body).parts
        (single mediaType encoding (withReturns body)).parts :=
    sameText_ofParts (.cons (sameText_raw mediaType encoding h) .nil)
  unfold ofBody
  split
  · exact hsingle _ _
  · split
    · exact hsingle _ _
    · split
      · exact hsingle _ _
      · exact sameText_ofParts (sameText_leaves _ _ h)

end MimeMail.Content
