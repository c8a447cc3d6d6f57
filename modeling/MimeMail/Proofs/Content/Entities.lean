import MimeMail.Content.Entity
import MimeMail.Proofs.Content.Multiparts
import MimeMail.Proofs.Header.Fields

namespace MimeMail.Entity

open Multipart (crlf)

def write (lines : List Text) (body : Bytes) : Bytes :=
  Utf8.encode (Text.join lineBreak lines) ++ crlf ++ crlf ++ body

theorem split_append {p r : Bytes} (hp : 0x0A ∉ p)
    (hr : p.getLast? = some 0x0D → ¬ [0x0A, 0x0D, 0x0A] <+: r) :
    split (p ++ r) = (p ++ (split r).1, (split r).2) := by
  induction p with
  | nil => rfl
  | cons b p ih =>
    rw [List.mem_cons, not_or] at hp
    have hrest : p.getLast? = some 0x0D → ¬ [0x0A, 0x0D, 0x0A] <+: r := by
      intro h
      apply hr
      rw [List.getLast?_cons, h]
      rfl
    rw [List.cons_append, split, ih hp.2 hrest]
    · rfl
    · rintro s rfl -
      exact hp.1 rfl
    · rintro s rfl he
      cases p with
      | nil => exact hr rfl ⟨s, he.symm⟩
      | cons c p => exact hp.2 (List.mem_cons.mpr (.inl (List.cons.inj he).1.symm))

theorem split_of_not_mem {p : Bytes} (hp : 0x0A ∉ p) : split p = (p, none) := by
  have hs := split_append (r := []) hp (by simp)
  rwa [List.append_nil, split, List.append_nil] at hs

theorem split_empty_line {p : Bytes} (r : Bytes) (hp : 0x0A ∉ p) :
    split (p ++ 0x0A :: 0x0A :: r) = (p, some r) := by
  rw [split_append hp, split, List.append_nil]
  rintro - ⟨s, hs⟩
  cases hs

theorem split_empty_line_crlf {p : Bytes} (r : Bytes) (hp : 0x0A ∉ p) :
    split (p ++ crlf ++ crlf ++ r) = (p, some r) := by
  have hs : split (crlf ++ (crlf ++ r)) = ([], some r) := rfl
  rw [List.append_assoc, List.append_assoc, split_append hp, hs, List.append_nil]
  rintro - ⟨s, hs⟩
  cases hs

theorem split_line {p r : Bytes} (hp : 0x0A ∉ p) (hn : ¬ [0x0A] <+: r) (hc : ¬ crlf <+: r) :
    split (p ++ 0x0A :: r) = (p ++ 0x0A :: (split r).1, (split r).2) := by
  rw [split_append hp, split]
  · rintro s - rfl
    exact hn ⟨s, rfl⟩
  · rintro s he
    cases he
  · rintro - ⟨s, hs⟩
    exact hc ⟨s, (List.cons.inj hs).2⟩

theorem not_prefix_encode {t : Text} (h : Lines.IsBlock t) (r : Bytes) :
    ¬ [0x0A] <+: Utf8.encode t ++ crlf ++ r ∧ ¬ crlf <+: Utf8.encode t ++ crlf ++ r := by
  have hcrlf : Utf8.encode (t ++ lineBreak) = Utf8.encode t ++ crlf := Utf8.encode_append _ _
  have hlen : 0 < (Utf8.encode t).length :=
    List.length_pos_iff.mpr (mt Utf8.encode_eq_nil_iff.mp h.ne_nil)
  constructor
  · intro hp
    rw [List.append_assoc] at hp
    have hs : Utf8.encode ['\n'] <+: Utf8.encode t :=
      List.prefix_of_prefix_length_le hp (List.prefix_append _ _) hlen
    exact h.not_prefix.1 (Utf8.prefix_of_encode_prefix hs)
  · intro hp
    rw [← hcrlf] at hp
    have hs : Utf8.encode lineBreak <+: Utf8.encode (t ++ lineBreak) := by
      apply List.prefix_of_prefix_length_le hp (List.prefix_append _ _)
      rw [hcrlf, List.length_append]
      exact Nat.le_add_left _ _
    exact h.not_prefix_append (Utf8.prefix_of_encode_prefix hs)

theorem split_block {t : Text} (h : Lines.IsBlock t) (body : Bytes) :
    split (Utf8.encode t ++ crlf ++ crlf ++ body) = (Utf8.encode t, some body) := by
  induction t using Lines.line_induction '\n' with
  | last p hp => exact split_empty_line_crlf body (Utf8.newline_not_mem_encode hp)
  | line p r hp ih =>
    have hr := h.of_append_newline hp
    have hp := Utf8.newline_not_mem_encode hp
    have he := Utf8.encode_append_newline p r
    have hrest : Utf8.encode (p ++ '\n' :: r) ++ crlf ++ crlf ++ body =
        Utf8.encode p ++ 0x0A :: (Utf8.encode r ++ crlf ++ crlf ++ body) := by
      simp [he]
    obtain ⟨hn, hc⟩ := not_prefix_encode hr (crlf ++ body)
    rw [← List.append_assoc] at hn hc
    rw [hrest, split_line hp hn hc, ih hr, he]

theorem ofPart?_eq {raw : Bytes} (hne : raw ≠ []) (hn : ¬ [0x0A] <+: raw) (hc : ¬ crlf <+: raw) :
    ofPart? raw =
      let head := Charset.decodeRaw (split raw).1
      match (split raw).2 with
      | some body => some (FieldMap.ofText head, body)
      | none =>
        if (Lines.ofText head).all isHeaderLine then some (FieldMap.ofText head, []) else none := by
  unfold ofPart?
  split
  · exact absurd rfl hne
  · next body => exact absurd ⟨body, rfl⟩ hc
  · next body => exact absurd ⟨body, rfl⟩ hn
  · rfl

theorem decodeRaw_join {line : Text} {lines : List Text} (hascii : ∀ c ∈ line.head?, c.toNat < 128)
    (hne : ∀ l ∈ line :: lines, l ≠ []) :
    Charset.decodeRaw (Utf8.encode (Text.join lineBreak (line :: lines))) =
      Text.join lineBreak (line :: lines) := by
  have hh : (Text.join lineBreak (line :: lines)).head? = line.head? := Text.head?_join hne
  cases hj : Text.join lineBreak (line :: lines) with
  | nil => rfl
  | cons c t =>
    rw [hj] at hh
    exact Charset.decodeRaw_encode_cons t (hascii c hh.symm)

theorem ofPart?_write {line : Text} {lines : List Text} {fields : List Field}
    (hascii : ∀ c ∈ line.head?, c.toNat < 128)
    (hw : List.Forall₂ Field.Writes (line :: lines) fields) (body : Bytes) :
    ofPart? (write (line :: lines) body) = some (FieldMap.ofFields fields, body) := by
  have hlines := Field.isBlock_of_writes hw
  have hblock := Lines.IsBlock.join (List.cons_ne_nil _ _) hlines
  obtain ⟨hn, hc⟩ := not_prefix_encode hblock (crlf ++ body)
  rw [← List.append_assoc] at hn hc
  have hread := decodeRaw_join hascii fun l hl => (hlines l hl).ne_nil
  rw [write, ofPart?_eq (by simp [crlf]) hn hc, split_block hblock]
  dsimp only
  rw [hread, FieldMap.ofText, Field.ofText_join hw]

end MimeMail.Entity
