import MimeMail.Charset.Basic
import MimeMail.Proofs.Text.Utf8

namespace MimeMail.CodePage

def IsHigh (high : Text) : Prop := ∀ c ∈ high, 128 ≤ c.toNat

theorem isHigh_ofList {l : List Char} (h : l.all (128 ≤ ·.toNat) = true) :
    IsHigh (String.ofList l).toList := by
  simpa [IsHigh] using h

theorem isHigh_append {s t : String} :
    IsHigh (s ++ t).toList ↔ IsHigh s.toList ∧ IsHigh t.toList := by
  rw [IsHigh, String.toList_append]
  exact List.forall_mem_append

open Charset in
theorem isHigh_of_mem_labels :
    ∀ entry ∈ labels, ∀ high, entry.1 = page high → IsHigh high := by
  unfold labels ibm866 latin2 latin3 latin4 latinCyrillic latinArabic latinGreek latinHebrew latin6
    latin7 latin8 latin9 latin10 koi8r koi8u macintosh windows874 windows1250 windows1251
    windows1252 windows1253 windows1254 windows1255 windows1256 windows1257 windows1258
    macCyrillic controls
  -- The pages are taken apart into the lines that they are written in, and these are read off.
  simp only [List.forall_mem_cons, page.injEq, forall_eq', reduceCtorEq, false_imp_iff,
    implies_true, List.not_mem_nil, true_and, and_true, isHigh_append]
  repeat' apply And.intro
  all_goals exact isHigh_ofList rfl

end MimeMail.CodePage

namespace MimeMail.Charset

def label (name : Text) : Text := Text.trim (name.takeWhile (· != '*'))

def ofName? (name : Text) : Option Charset := ofLabel? (label name)

def namesUtf8 (name : Text) : Bool :=
  Text.same (label name) "utf-8".toList || Text.same (label name) "utf8".toList

def isSingleByte : Charset → Bool
  | page _ => true
  | userDefined => true
  | _ => false

def isAsciiCompatible : Charset → Bool
  | utf16 _ => false
  | iso2022Jp => false
  | replacement => false
  | _ => true

def IsMarked (bs : Bytes) : Prop :=
  [0xEF, 0xBB, 0xBF] <+: bs ∨ [0xFF, 0xFE] <+: bs ∨ [0xFE, 0xFF] <+: bs

instance (bs : Bytes) : Decidable (IsMarked bs) :=
  inferInstanceAs (Decidable (_ ∨ _ ∨ _))

theorem decodeMarked_of_not_isMarked (unmarked : Bytes → Text) {bs : Bytes} (h : ¬ IsMarked bs) :
    decodeMarked unmarked bs = unmarked bs := by
  unfold decodeMarked
  split
  · next r => exact absurd (.inl ⟨r, rfl⟩) h
  · next r => exact absurd (.inr (.inl ⟨r, rfl⟩)) h
  · next r => exact absurd (.inr (.inr ⟨r, rfl⟩)) h
  · rfl

theorem not_isMarked_of_lt {bs : Bytes} (h : ∀ b ∈ bs, b < 0x80) : ¬ IsMarked bs := by
  -- Every mark starts with a byte from 0x80 on.
  rintro (hp | hp | hp) <;>
  · have hb := h _ (hp.mem List.mem_cons_self)
    exact absurd hb (by decide)

theorem lt_of_mem_encode {t : Text} (h : ∀ c ∈ t, c.toNat < 128) :
    ∀ b ∈ Utf8.encode t, b < 0x80 := by
  intro b hb
  obtain ⟨c, hc, hb⟩ := List.mem_flatMap.mp hb
  rw [Utf8.encodeChar_of_lt (h c hc), List.mem_singleton] at hb
  rw [hb, UInt8.lt_iff_toNat_lt, Utf8.toNat_ofNat (h c hc)]
  exact h c hc

theorem not_isMarked_encode {t : Text} (h : ∀ c ∈ t, c.toNat < 128) :
    ¬ IsMarked (Utf8.encode t) := not_isMarked_of_lt (lt_of_mem_encode h)

theorem map_ofNat_encode {t : Text} (h : ∀ c ∈ t, c.toNat < 128) :
    ((Utf8.encode t).map fun b => Char.ofNat b.toNat) = t := by
  induction t with
  | nil => rfl
  | cons c t ih =>
    rw [List.forall_mem_cons] at h
    rw [Utf8.encode_cons, Utf8.encodeChar_of_lt h.1, List.map_append, ih h.2, List.map_singleton,
      Utf8.toNat_ofNat h.1, Char.ofNat_toNat]
    rfl

theorem mem_labels_of_ofLabel {label : Text} {charset : Charset}
    (h : ofLabel? label = some charset) : ∃ entry ∈ labels, entry.1 = charset := by
  obtain ⟨entry, hf, rfl⟩ := Option.map_eq_some_iff.mp h
  exact ⟨entry, List.mem_of_find?_eq_some hf, rfl⟩

theorem toNat_userDefined (b : UInt8) :
    (Char.ofNat (0xF700 + b.toNat)).toNat = 0xF700 + b.toNat := by
  have hb := b.toNat_lt
  have hv : (0xF700 + b.toNat).isValidChar := .inr ⟨by omega, by omega⟩
  rw [Char.toNat_ofNat, if_pos hv]

theorem ne_utf8_of_isSingleByte {charset : Charset} (h : charset.isSingleByte = true) :
    charset ≠ utf8 := by
  rintro rfl
  cases h

theorem same_comm (s t : Text) : Text.same s t = Text.same t s := BEq.comm

theorem ofName?_of_namesUtf8 {name : Text} (h : namesUtf8 name = true) :
    ofName? name = some utf8 := by
  rw [namesUtf8, Bool.or_eq_true, same_comm (label name), same_comm (label name)] at h
  unfold ofName? ofLabel? labels
  -- UTF-8 is the first charset of the list.
  rw [List.find?_cons_of_pos]
  · rfl
  · rw [List.any_eq_true]
    rcases h with h | h
    · exact ⟨"utf-8", by simp, h⟩
    · exact ⟨"utf8", by simp, h⟩

theorem exists_encode_of_lt {bs : Bytes} (h : ∀ b ∈ bs, b < 0x80) :
    ∃ t : Text, (∀ c ∈ t, c.toNat < 128) ∧ Utf8.encode t = bs := by
  induction bs with
  | nil => exact ⟨[], by simp, rfl⟩
  | cons b bs ih =>
    rw [List.forall_mem_cons] at h
    obtain ⟨t, ht, rfl⟩ := ih h.2
    have hc := Utf8.toNat_char b
    have hlt : (Char.ofNat b.toNat).toNat < 128 := hc.trans_lt h.1
    refine ⟨Char.ofNat b.toNat :: t, List.forall_mem_cons.mpr ⟨hlt, ht⟩, ?_⟩
    rw [Utf8.encode_cons, Utf8.encodeChar_of_lt hlt, hc, UInt8.ofNat_toNat]
    rfl

theorem withoutMark_of_lt {t : Text} (h : ∀ c ∈ t, c.toNat < 128) : Text.withoutMark t = t := by
  apply Text.withoutMark_eq_self
  intro hm
  exact absurd (h _ (List.mem_of_head? hm)) (by decide)

variable [Library]

/-- The charset reads byte by byte, and only bytes below 0x80 as ASCII. -/
structure ReadsBytes (charset : Charset) (read : UInt8 → Char) : Prop where
  decode : ∀ bs, charset.decodeUnmarked bs = bs.map read
  low : ∀ b, b < 0x80 → read b = Char.ofNat b.toNat
  high : ∀ b, ¬ b < 0x80 → 128 ≤ (read b).toNat

theorem decode_of_not_isMarked (charset : Charset) {bs : Bytes} (h : ¬ IsMarked bs) :
    decode charset bs = decodeUnmarked charset bs := decodeMarked_of_not_isMarked _ h

theorem readsBytes_page {high : Text} (h : CodePage.IsHigh high) :
    ReadsBytes (page high) (CodePage.char high) where
  decode _ := rfl
  low _ hb := if_pos hb
  high b hb := by
    rw [CodePage.char, if_neg hb]
    by_cases hlt : b.toNat - 0x80 < high.length
    · rw [List.getD_eq_getElem _ _ hlt]
      exact h _ (List.getElem_mem hlt)
    · rw [List.getD_eq_default _ _ (by omega)]
      decide

theorem readsBytes_userDefined : ReadsBytes userDefined
    fun b => Char.ofNat (if b < 0x80 then b.toNat else 0xF700 + b.toNat) where
  decode _ := rfl
  low _ hb := by rw [if_pos hb]
  high b hb := by
    rw [if_neg hb, toNat_userDefined]
    omega

theorem exists_readsBytes {name : Text} {charset : Charset} (hn : ofName? name = some charset)
    (hs : charset.isSingleByte = true) : ∃ read, ReadsBytes charset read := by
  obtain ⟨entry, hm, he⟩ := mem_labels_of_ofLabel hn
  cases charset with
  | page high => exact ⟨_, readsBytes_page (CodePage.isHigh_of_mem_labels entry hm high he)⟩
  | userDefined => exact ⟨_, readsBytes_userDefined⟩
  | utf8 => cases hs
  | utf16 bigEndian => cases hs
  | doubleByte set => cases hs
  | iso2022Jp => cases hs
  | replacement => cases hs

theorem decodeNamed?_eq (name : Text) (bs : Bytes) :
    decodeNamed? name bs =
      if namesUtf8 name then some (Utf8.decodeLossy bs) else (ofName? name).map (decode · bs) := rfl

theorem decodeNamed?_of_namesUtf8 {name : Text} (h : namesUtf8 name = true) (bs : Bytes) :
    decodeNamed? name bs = some (Utf8.decodeLossy bs) := by
  rw [decodeNamed?_eq, if_pos h]

theorem decodeNamed?_of_ofName {name : Text} {charset : Charset} (hn : ofName? name = some charset)
    (hu : charset ≠ utf8) (bs : Bytes) : decodeNamed? name bs = some (decode charset bs) := by
  have hname : ¬ namesUtf8 name = true :=
    fun h => hu (Option.some.inj (hn.symm.trans (ofName?_of_namesUtf8 h)))
  rw [decodeNamed?_eq, if_neg hname, hn, Option.map_some]

theorem decodeNamed?_of_unknown {name : Text} (hn : ofName? name = none) (bs : Bytes) :
    decodeNamed? name bs = none := by
  have hname : ¬ namesUtf8 name = true :=
    fun h => Option.some_ne_none _ ((ofName?_of_namesUtf8 h).symm.trans hn)
  rw [decodeNamed?_eq, if_neg hname, hn, Option.map_none]

namespace ReadsBytes

variable {charset : Charset} {read : UInt8 → Char} (h : ReadsBytes charset read)
include h

theorem toNat_read {b : UInt8} (hb : b < 0x80) : (read b).toNat = b.toNat := by
  rw [h.low b hb, Utf8.toNat_char]

theorem toNat_of_lt {b : UInt8} (hc : (read b).toNat < 128) : b.toNat = (read b).toNat := by
  by_cases hb : b < 0x80
  · rw [h.toNat_read hb]
  · exact absurd (h.high b hb) (by omega)

theorem mem_of_mem_decode {bs : Bytes} {c : Char} (hc : c.toNat < 128)
    (hm : c ∈ charset.decodeUnmarked bs) : UInt8.ofNat c.toNat ∈ bs := by
  rw [h.decode] at hm
  obtain ⟨b, hb, rfl⟩ := List.mem_map.mp hm
  rw [← h.toNat_of_lt hc, UInt8.ofNat_toNat]
  exact hb

theorem decode_encode {t : Text} (ht : ∀ c ∈ t, c.toNat < 128) :
    Charset.decode charset (Utf8.encode t) = t := by
  rw [decode_of_not_isMarked charset (not_isMarked_encode ht), h.decode]
  exact (List.map_congr_left fun b hb => h.low b (lt_of_mem_encode ht b hb)).trans
    (map_ofNat_encode ht)

end ReadsBytes

theorem decode_encode_of_lt {name : Text} {charset : Charset} (hn : ofName? name = some charset)
    (hc : charset.isAsciiCompatible = true) {t : Text} (ht : ∀ c ∈ t, c.toNat < 128) :
    decode charset (Utf8.encode t) = t := by
  cases charset with
  | utf8 => rw [decode_utf8_encode, withoutMark_of_lt ht]
  | page high =>
    obtain ⟨read, hr⟩ := exists_readsBytes hn rfl
    exact hr.decode_encode ht
  | userDefined => exact readsBytes_userDefined.decode_encode ht
  | doubleByte set =>
    rw [decode_of_not_isMarked _ (not_isMarked_encode ht), decodeUnmarked,
      Library.decode_ascii _ _ (lt_of_mem_encode ht), map_ofNat_encode ht]
  | utf16 bigEndian => cases hc
  | iso2022Jp => cases hc
  | replacement => cases hc

theorem decodeNamed?_encode_of_lt {name : Text} {charset : Charset}
    (hn : ofName? name = some charset) (hc : charset.isAsciiCompatible = true) {t : Text}
    (ht : ∀ c ∈ t, c.toNat < 128) : decodeNamed? name (Utf8.encode t) = some t := by
  rw [decodeNamed?_eq, hn, Option.map_some, decode_encode_of_lt hn hc ht, Utf8.decodeLossy_encode,
    ite_self]

end MimeMail.Charset
