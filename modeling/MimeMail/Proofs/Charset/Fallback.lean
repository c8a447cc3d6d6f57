import MimeMail.Header.Fields
import MimeMail.Proofs.Charset.Ascii

namespace MimeMail

namespace Utf8

theorem decode?_eq_none_iff {bs : Bytes} : decode? bs = none ↔ ¬ ∃ t, encode t = bs := by
  rw [Option.eq_none_iff_forall_ne_some, not_exists]
  exact forall_congr' fun t => not_congr decode?_eq_some_iff

theorem length_go_le (n : ℕ) (bs : Bytes) : (scan.go n bs).length ≤ bs.length := by
  induction bs generalizing n with
  | nil => cases n <;> exact Nat.le_refl 0
  | cons b r ih =>
    cases n with
    | zero =>
      rw [scan.go]
      split <;> exact Nat.succ_le_succ (ih _)
    | succ n => exact (ih n).trans (Nat.le_succ _)

theorem length_decodeLossy_le (bs : Bytes) : (decodeLossy bs).length ≤ bs.length := by
  rw [decodeLossy, List.length_map]
  exact length_go_le 0 bs

end Utf8

namespace Utf16

theorem length_units_le (bigEndian : Bool) (bs : Bytes) :
    (units bigEndian bs).length ≤ bs.length := by
  fun_induction units bigEndian bs with
  | case1 a b r ih =>
    simp only [List.length_cons]
    omega
  | case2 a => exact Nat.le_refl 1
  | case3 => exact Nat.le_refl 0

theorem length_ofUnits_le (us : List (Option ℕ)) : (ofUnits us).length ≤ us.length := by
  fun_induction ofUnits us <;> simp only [List.length_cons, List.length_nil] at * <;> omega

theorem length_decode_le (bigEndian : Bool) (bs : Bytes) :
    (decode bigEndian bs).length ≤ bs.length :=
  (length_ofUnits_le _).trans (length_units_le bigEndian bs)

end Utf16

namespace Charset

theorem length_decodeMarked (unmarked : Bytes → Text) {bs : Bytes} (h : IsMarked bs) :
    (decodeMarked unmarked bs).length < bs.length := by
  have hlt {mark r : Bytes} {t : Text} (hm : mark ≠ []) (ht : t.length ≤ r.length) :
      t.length < (mark ++ r).length := by
    have := List.length_pos_of_ne_nil hm
    rw [List.length_append]
    omega
  rcases h with ⟨r, rfl⟩ | ⟨r, rfl⟩ | ⟨r, rfl⟩
  · exact hlt (by decide) (Utf8.length_decodeLossy_le r)
  · exact hlt (by decide) (Utf16.length_decode_le false r)
  · exact hlt (by decide) (Utf16.length_decode_le true r)

theorem decodeRaw_eq_decodeMarked {raw : Bytes} (h : ¬ ∃ t, Utf8.encode t = dropMark raw) :
    decodeRaw raw = decodeMarked (CodePage.decode CodePage.windows1252) (dropMark raw) := by
  rw [decodeRaw, Utf8.decode?_eq_none_iff.mpr h, Option.getD_none]

theorem drop_windows1252 :
    CodePage.windows1252.drop 32 = (List.range 96).map fun n => Char.ofNat (n + 160) := by
  unfold CodePage.windows1252
  simp only [String.toList_append]
  rfl

theorem char_windows1252 {b : UInt8} (h : b < 0x80 ∨ 0xA0 ≤ b) :
    CodePage.char CodePage.windows1252 b = Char.ofNat b.toNat := by
  rcases h with h | h
  · exact if_pos h
  · have hlow : 160 ≤ b.toNat := UInt8.le_iff_toNat_le.mp h
    have hhigh := b.toNat_lt
    have hb : ¬ b < 0x80 := by
      rw [UInt8.lt_iff_toNat_lt]
      change ¬ b.toNat < 128
      omega
    have hindex : b.toNat - 0x80 = 32 + (b.toNat - 160) := by omega
    have hcode : b.toNat - 160 + 160 = b.toNat := by omega
    have hat : CodePage.windows1252[32 + (b.toNat - 160)]? = some (Char.ofNat b.toNat) := by
      rw [← List.getElem?_drop, drop_windows1252, List.getElem?_map,
        List.getElem?_range (by omega), Option.map_some, hcode]
    rw [CodePage.char, if_neg hb, hindex, List.getD_eq_getElem?_getD, hat, Option.getD_some]

theorem map_windows1252 {bs : Bytes} (h : ∀ b ∈ bs, b < 0x80 ∨ 0xA0 ≤ b) :
    bs.map (CodePage.char CodePage.windows1252) = bs.map fun b => Char.ofNat b.toNat :=
  List.map_congr_left fun b hb => char_windows1252 (h b hb)

theorem decodeRaw_bytewise_iff (raw : Bytes) :
    let bs := dropMark raw
    (∀ t, Utf8.encode t = bs → decodeRaw raw = t) ∧
      ((¬ ∃ t, Utf8.encode t = bs) →
        (decodeRaw raw = bs.map (CodePage.char CodePage.windows1252) ↔ ¬ IsMarked bs) ∧
          ∀ r, (bs = [0xEF, 0xBB, 0xBF] ++ r → decodeRaw raw = Utf8.decodeLossy r) ∧
            (bs = [0xFF, 0xFE] ++ r → decodeRaw raw = Utf16.decode false r) ∧
            (bs = [0xFE, 0xFF] ++ r → decodeRaw raw = Utf16.decode true r)) ∧
      ∀ b, b < 0x80 ∨ 0xA0 ≤ b → CodePage.char CodePage.windows1252 b = Char.ofNat b.toNat := by
  intro bs
  refine ⟨fun t ht => ?_, fun hbroken => ⟨⟨fun hchars hm => ?_, fun hm => ?_⟩, fun r => ?_⟩,
    fun b => char_windows1252⟩
  · rw [decodeRaw, Utf8.decode?_eq_some_iff.mpr ht, Option.getD_some]
  · have hlt := length_decodeMarked (CodePage.decode CodePage.windows1252) hm
    rw [← decodeRaw_eq_decodeMarked hbroken, hchars, List.length_map] at hlt
    exact Nat.lt_irrefl _ hlt
  · rw [decodeRaw_eq_decodeMarked hbroken, decodeMarked_of_not_isMarked _ hm]
    rfl
  · rw [decodeRaw_eq_decodeMarked hbroken]
    refine ⟨fun hr => ?_, fun hr => ?_, fun hr => ?_⟩ <;>
    · rw [show dropMark raw = _ from hr]
      rfl

theorem decodeRaw_bytewise_iff_latin1 :
    (¬ ∃ t, Utf8.encode t = dropMark [0x63, 0x61, 0x66, 0xE9]) ∧
      ¬ IsMarked (dropMark [0x63, 0x61, 0x66, 0xE9]) ∧
      decodeRaw [0x63, 0x61, 0x66, 0xE9] = "café".toList := by
  have hbroken : ¬ ∃ t, Utf8.encode t = dropMark [0x63, 0x61, 0x66, 0xE9] := by
    rw [← Utf8.decode?_eq_none_iff]
    decide +kernel
  have hmark : ¬ IsMarked (dropMark [0x63, 0x61, 0x66, 0xE9]) := by decide
  have hread := ((decodeRaw_bytewise_iff [0x63, 0x61, 0x66, 0xE9]).2.1 hbroken).1.mpr hmark
  rw [hread, map_windows1252 (by decide +kernel)]
  exact ⟨hbroken, hmark, by decide⟩

theorem fields_hidden :
    let raw := [0xFF, 0xFE] ++ Utf8.encode "\nSubject: hi\n".toList
    (¬ ∃ t, Utf8.encode t = dropMark raw) ∧
      decodeRaw raw ≠ (dropMark raw).map (CodePage.char CodePage.windows1252) ∧
      FieldMap.ofBytes raw = .ok {} ∧
      (FieldMap.ofText ((dropMark raw).map (CodePage.char CodePage.windows1252))).entries =
        [("subject".toList, ["hi".toList])] := by
  intro raw
  have hbroken : ¬ ∃ t, Utf8.encode t = dropMark raw := by
    rw [← Utf8.decode?_eq_none_iff]
    decide +kernel
  have hchars : (dropMark raw).map (CodePage.char CodePage.windows1252) =
      (dropMark raw).map fun b => Char.ofNat b.toNat := map_windows1252 (by decide +kernel)
  have hread := decodeRaw_eq_decodeMarked hbroken
  rw [hchars, FieldMap.ofBytes, if_neg (by decide), hread]
  refine ⟨hbroken, ?_, ?_, ?_⟩
  · decide +kernel
  · apply congrArg Except.ok
    decide +kernel
  · decide +kernel

end Charset

end MimeMail
