import MimeMail.Charset.Basic
import MimeMail.Proofs.Text.Blanks

namespace MimeMail.Utf8

@[simp] theorem encode_append (s t : Text) : encode (s ++ t) = encode s ++ encode t :=
  List.flatMap_append

theorem encode_cons (c : Char) (t : Text) : encode (c :: t) = String.utf8EncodeChar c ++ encode t :=
  rfl

theorem head?_append (c : Char) (r : Bytes) : head? (String.utf8EncodeChar c ++ r) = some c := by
  have hl : (String.utf8EncodeChar c).length ≤ 4 := by
    rw [String.length_utf8EncodeChar]
    exact Char.utf8Size_le_four c
  rw [head?, List.take_append, List.take_of_length_le hl, List.toByteArray_append]
  exact ByteArray.utf8DecodeChar?_utf8EncodeChar_append

theorem go_append (p r : Bytes) : scan.go p.length (p ++ r) = scan.go 0 r := by
  induction p with
  | nil => rfl
  | cons b p ih => exact ih

theorem scan_encodeChar_append (c : Char) (r : Bytes) :
    scan (String.utf8EncodeChar c ++ r) = some c :: scan r := by
  have hh := head?_append c r
  have hs := String.length_utf8EncodeChar c
  cases he : String.utf8EncodeChar c with
  | nil => exact absurd he String.utf8EncodeChar_ne_nil
  | cons b p =>
    rw [he] at hh hs
    have hp : c.utf8Size - 1 = p.length := by
      rw [← hs]
      rfl
    rw [List.cons_append] at hh
    rw [List.cons_append, scan, scan.go, hh]
    simp only [hp, go_append]
    rfl

theorem scan_encode_append (t : Text) (r : Bytes) :
    scan (encode t ++ r) = t.map some ++ scan r := by
  induction t with
  | nil => rfl
  | cons c t ih =>
    rw [encode_cons, List.append_assoc, scan_encodeChar_append, ih]
    rfl

theorem scan_encode (t : Text) : scan (encode t) = t.map some := by
  simpa [scan, scan.go] using scan_encode_append t []

theorem decode?_encode (t : Text) : decode? (encode t) = some t := by
  rw [decode?, scan_encode]
  induction t with
  | nil => rfl
  | cons c t ih => simp [ih]

theorem prefix_of_head? {bs : Bytes} {c : Char} (h : head? bs = some c) :
    String.utf8EncodeChar c <+: bs := by
  have he := ByteArray.eq_of_utf8DecodeChar?_eq_some h
  have hl := congrArg (fun b : ByteArray => b.data.toList) he
  simp only [List.data_toByteArray, ByteArray.data_append, Array.toList_append] at hl
  exact List.IsPrefix.trans ⟨_, hl.symm⟩ (List.take_prefix 4 bs)

theorem head?_of_scan {bs : Bytes} {c : Char} {l : List (Option Char)}
    (h : scan bs = some c :: l) : head? bs = some c := by
  cases bs with
  | nil => cases h
  | cons b r =>
    rw [scan, scan.go] at h
    cases hh : head? (b :: r) with
    | none =>
      rw [hh] at h
      cases h
    | some d =>
      rw [hh] at h
      exact (List.cons.inj h).1

theorem encode_of_scan {bs : Bytes} {t : Text} (h : scan bs = t.map some) : encode t = bs := by
  induction t generalizing bs with
  | nil =>
    cases bs with
    | nil => rfl
    | cons b r =>
      rw [scan, scan.go] at h
      cases hh : head? (b :: r) <;> rw [hh] at h <;> cases h
  | cons c t ih =>
    obtain ⟨r, rfl⟩ := prefix_of_head? (head?_of_scan h)
    rw [scan_encodeChar_append, List.map_cons] at h
    rw [encode_cons, ih (List.cons.inj h).2]

theorem map_some_of_mapM {l : List (Option Char)} {t : Text} (h : l.mapM id = some t) :
    l = t.map some := by
  induction l generalizing t with
  | nil => simpa using h
  | cons a l ih =>
    simp only [List.mapM_cons, id, Option.bind_eq_bind, Option.bind_eq_some_iff] at h
    obtain ⟨c, rfl, s, hs, ht⟩ := h
    cases ht
    rw [ih hs, List.map_cons]

theorem decode?_eq_some_iff {bs : Bytes} {t : Text} : decode? bs = some t ↔ encode t = bs := by
  constructor
  · exact fun h => encode_of_scan (map_some_of_mapM h)
  · rintro rfl
    exact decode?_encode t

theorem decodeLossy_encode (t : Text) : decodeLossy (encode t) = t := by
  rw [decodeLossy, scan_encode, List.map_map]
  exact List.map_id t

theorem toNat_ofNat {c : Char} (h : c.toNat < 128) : (UInt8.ofNat c.toNat).toNat = c.toNat := by
  rw [UInt8.toNat_ofNat']
  omega

theorem toNat_char (b : UInt8) : (Char.ofNat b.toNat).toNat = b.toNat := by
  have hb := b.toNat_lt
  rw [Char.toNat_ofNat, if_pos (.inl (by omega))]

theorem encodeChar_of_lt {c : Char} (h : c.toNat < 128) :
    String.utf8EncodeChar c = [UInt8.ofNat c.toNat] := by
  have hv : c.val.toNat ≤ 0x7f := by
    change c.toNat ≤ 0x7f
    omega
  simp only [String.utf8EncodeChar, hv, if_true]
  rfl

theorem bounds_of_mem_encodeChar {c : Char} {b : UInt8} (h : b ∈ String.utf8EncodeChar c) :
    b.toNat < 0xF8 ∧ (128 ≤ c.toNat → 128 ≤ b.toNat) := by
  have hlt (n : ℕ) : (UInt8.ofNat n).toNat = n % 256 := UInt8.toNat_ofNat'
  simp only [String.utf8EncodeChar] at h
  split at h
  · next hv =>
    have hc : c.toNat ≤ 0x7F := hv
    rw [List.mem_singleton.mp h, hlt]
    omega
  · split at h
    · simp only [List.mem_cons, List.not_mem_nil, or_false] at h
      rcases h with rfl | rfl <;> simp only [hlt] <;> omega
    · split at h
      · simp only [List.mem_cons, List.not_mem_nil, or_false] at h
        rcases h with rfl | rfl | rfl <;> simp only [hlt] <;> omega
      · simp only [List.mem_cons, List.not_mem_nil, or_false] at h
        rcases h with rfl | rfl | rfl | rfl <;> simp only [hlt] <;> omega

theorem mem_of_mem_encode {t : Text} {c : Char} (hc : c.toNat < 128)
    (h : UInt8.ofNat c.toNat ∈ encode t) : c ∈ t := by
  obtain ⟨d, hd, hb⟩ := List.mem_flatMap.mp h
  have hn : (UInt8.ofNat c.toNat).toNat = c.toNat := toNat_ofNat hc
  by_cases hl : d.toNat < 128
  · rw [encodeChar_of_lt hl, List.mem_singleton] at hb
    have hm : (UInt8.ofNat d.toNat).toNat = d.toNat := toNat_ofNat hl
    have he : c.toNat = d.toNat := by rw [← hn, hb, hm]
    rw [Char.toNat_inj.mp he]
    exact hd
  · have := (bounds_of_mem_encodeChar hb).2 (by omega)
    omega

theorem newline_not_mem_encode {t : Text} (h : '\n' ∉ t) : (0x0A : UInt8) ∉ encode t :=
  fun hm => h (mem_of_mem_encode (c := '\n') (by decide) hm)

theorem encode_append_newline (s t : Text) :
    encode (s ++ '\n' :: t) = encode s ++ 0x0A :: encode t := encode_append s ('\n' :: t)

theorem toNat_lt_of_mem_encode {t : Text} {b : UInt8} (h : b ∈ encode t) : b.toNat < 0xF8 := by
  obtain ⟨c, -, hb⟩ := List.mem_flatMap.mp h
  exact (bounds_of_mem_encodeChar hb).1

theorem encode_eq_nil_iff {t : Text} : encode t = [] ↔ t = [] := by
  cases t with
  | nil => simp [encode]
  | cons c t => simp [encode_cons, String.utf8EncodeChar_ne_nil]

theorem prefix_of_encode_prefix {s t : Text} (h : encode s <+: encode t) : s <+: t := by
  obtain ⟨r, hr⟩ := h
  have hs : s.map some ++ scan r = t.map some := by rw [← scan_encode_append, hr, scan_encode]
  have hp : s.map some <+: t.map some := ⟨_, hs⟩
  exact (List.prefix_map_iff_of_injective (Option.some_injective Char)).mp hp

theorem exists_of_encode_eq_append {t : Text} {c : Char} {p r : Bytes} (hc : c.toNat < 128)
    (h : encode t = p ++ UInt8.ofNat c.toNat :: r) :
    ∃ s u, t = s ++ c :: u ∧ encode s = p ∧ encode u = r := by
  induction t generalizing p with
  | nil => simp [encode] at h
  | cons d t ih =>
    rw [encode_cons] at h
    rcases List.append_eq_append_iff.mp h with ⟨q, rfl, ht⟩ | ⟨q, hd, ht⟩
    · obtain ⟨s, u, rfl, rfl, hu⟩ := ih ht
      exact ⟨d :: s, u, rfl, rfl, hu⟩
    · cases q with
      | nil =>
        rw [List.append_nil] at hd
        obtain ⟨s, u, rfl, hs, hu⟩ := ih (p := []) ht.symm
        refine ⟨d :: s, u, rfl, ?_, hu⟩
        rw [encode_cons, hs, List.append_nil, hd]
      | cons b q =>
        -- The byte lies in the character `d`, so it is all of it.
        obtain ⟨rfl, rfl⟩ := List.cons.inj ht
        have hm : UInt8.ofNat c.toNat ∈ encode [d] := by simp [encode, hd]
        obtain rfl := List.mem_singleton.mp (mem_of_mem_encode hc hm)
        rw [encodeChar_of_lt hc] at hd
        obtain ⟨rfl, rfl⟩ : p = [] ∧ q = [] := by
          cases p with
          | nil => simpa using hd.symm
          | cons a p => simp at hd
        exact ⟨[], t, rfl, rfl, rfl⟩

end MimeMail.Utf8

namespace MimeMail.Text

def withoutMark : Text → Text
  | '\uFEFF' :: t => t
  | t => t

theorem withoutMark_cons {c : Char} (t : Text) (h : c ≠ '\uFEFF') :
    withoutMark (c :: t) = c :: t := by
  unfold withoutMark
  split
  · next he => exact absurd (List.cons.inj he).1 h
  · rfl

theorem withoutMark_append {t : Text} (r : Text) (h : t ≠ []) :
    withoutMark (t ++ r) = withoutMark t ++ r := by
  obtain ⟨c, t, rfl⟩ := List.exists_cons_of_ne_nil h
  by_cases hc : c = '\uFEFF'
  · subst hc
    rfl
  · rw [withoutMark_cons t hc]
    exact withoutMark_cons _ hc

theorem withoutMark_eq_self {t : Text} (h : t.head? ≠ some '\uFEFF') : withoutMark t = t := by
  cases t with
  | nil => rfl
  | cons c t => exact withoutMark_cons t fun hc => h (congrArg some hc)

end MimeMail.Text

namespace MimeMail.Charset

open Utf8

theorem dropMark_encode (t : Text) : dropMark (encode t) = encode (Text.withoutMark t) := by
  cases t with
  | nil => rfl
  | cons c t =>
    by_cases hc : c = '\uFEFF'
    · subst hc
      rfl
    · rw [Text.withoutMark_cons t hc]
      unfold dropMark
      split
      · next bs he =>
        -- The three bytes of the mark are read as the mark.
        have hs := scan_encode (c :: t)
        rw [he, ← List.nil_append bs] at hs
        have hm := scan_encodeChar_append '\uFEFF' bs
        exact absurd (Option.some.inj (List.cons.inj (hs.symm.trans hm)).1) hc
      · rfl

theorem decodeRaw_encode (t : Text) : decodeRaw (encode t) = Text.withoutMark t := by
  rw [decodeRaw, dropMark_encode, decode?_encode]
  rfl

theorem decodeRaw_encode_cons {c : Char} (t : Text) (h : c.toNat < 128) :
    decodeRaw (encode (c :: t)) = c :: t := by
  rw [decodeRaw_encode]
  apply Text.withoutMark_cons
  rintro rfl
  exact absurd h (by decide)

variable [Library]

theorem decode_utf8 {bs : Bytes} (h : ∀ b ∈ bs, b.toNat < 0xF8) :
    decode utf8 bs = decodeLossy (dropMark bs) := by
  unfold decode decodeMarked
  split
  · rfl
  · exact absurd (h 0xFF List.mem_cons_self) (by decide)
  · exact absurd (h 0xFE List.mem_cons_self) (by decide)
  · next hn _ _ =>
    have hd : dropMark bs = bs := by
      unfold dropMark
      split
      · exact absurd rfl (hn _)
      · rfl
    rw [hd]
    rfl

theorem decode_utf8_encode (t : Text) : decode utf8 (encode t) = Text.withoutMark t := by
  rw [decode_utf8 fun b hb => toNat_lt_of_mem_encode hb, dropMark_encode, decodeLossy_encode]

/-- A name that stands for UTF-8 if it stands for any charset. -/
def IsUtf8IfKnown (name : Text) : Prop :=
  ∀ charset ∈ ofLabel? (Text.trim (name.takeWhile (· != '*'))), charset = utf8

instance (name : Text) : Decidable (IsUtf8IfKnown name) :=
  inferInstanceAs (Decidable (∀ charset ∈ ofLabel? _, charset = utf8))

theorem IsUtf8IfKnown.decodeNamed? {name : Text} (h : IsUtf8IfKnown name) :
    (∀ t, (decodeNamed? name (encode t)).getD (decodeRaw (encode t)) = t) ∨
      ∀ t, (decodeNamed? name (encode t)).getD (decodeRaw (encode t)) = Text.withoutMark t := by
  unfold Charset.decodeNamed?
  dsimp only
  split
  · refine .inl fun t => ?_
    rw [Option.getD_some, decodeLossy_encode]
  · refine .inr fun t => ?_
    unfold IsUtf8IfKnown at h
    cases hl : ofLabel? (Text.trim (name.takeWhile (· != '*'))) with
    | none => exact decodeRaw_encode t
    | some charset =>
      rw [h charset hl, Option.map_some, Option.getD_some, decode_utf8_encode]

theorem decodeNamed?_utf8 (bs : Bytes) :
    decodeNamed? "UTF-8".toList bs = some (decodeLossy bs) := by
  rfl

end MimeMail.Charset
