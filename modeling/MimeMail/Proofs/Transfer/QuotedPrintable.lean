import MimeMail.Proofs.Text.Lines
import MimeMail.Proofs.Text.Utf8
import MimeMail.Transfer.QuotedPrintable

namespace MimeMail.QuotedPrintable

def isLiteral : Text → Bool
  | ['='] => false
  | ['=', _] => true
  | '=' :: a :: b :: r =>
    !((Digits.hexValue? a).isSome && (Digits.hexValue? b).isSome) && isLiteral r
  | _ :: r => isLiteral r
  | [] => true

/-- Printable lines that end in CRLF, with no blank before it and free of escapes. -/
def IsVerbatim (t : Text) : Prop :=
  ∀ line ∈ Lines.cutAfter '\n' t, line = Text.trimEnd line ++ lineBreak ∧
    line.all allowed = true ∧ isLiteral (Text.trimEnd line) = true

instance (t : Text) : Decidable (IsVerbatim t) :=
  inferInstanceAs (Decidable (∀ line ∈ Lines.cutAfter '\n' t,
    line = Text.trimEnd line ++ lineBreak ∧ line.all allowed = true ∧
      isLiteral (Text.trimEnd line) = true))

theorem allowed_iff {c : Char} :
    allowed c = true ↔
      c.toNat = 0x09 ∨ c.toNat = 0x0D ∨ c.toNat = 0x0A ∨ 0x20 ≤ c.toNat ∧ c.toNat ≤ 0x7E := by
  have heq (d : Char) : c = d ↔ c.toNat = d.toNat := Char.toNat_inj.symm
  simp only [allowed, Bool.or_eq_true, beq_iff_eq, Bool.and_eq_true, decide_eq_true_eq, heq, or_assoc]
  rfl

theorem lt_of_allowed {c : Char} (h : allowed c = true) : c.toNat < 128 := by
  rw [allowed_iff] at h
  omega

theorem map_byte_eq_encode {t : Text} (h : ∀ c ∈ t, c.toNat < 128) :
    t.map byte = Utf8.encode t := by
  induction t with
  | nil => rfl
  | cons c t ih =>
    rw [List.forall_mem_cons] at h
    rw [List.map_cons, Utf8.encode_cons, Utf8.encodeChar_of_lt h.1, ih h.2]
    rfl

theorem isLiteral_of_not_mem {p : Text} (h : '=' ∉ p) : isLiteral p = true := by
  induction p with
  | nil => rfl
  | cons c p ih =>
    rw [List.mem_cons, not_or] at h
    have hc : c ≠ '=' := fun he => h.1 he.symm
    rw [isLiteral]
    · exact ih h.2
    · exact fun he => (hc he).elim
    · exact fun a he => (hc he).elim
    · exact fun a b r he => (hc he).elim

theorem decodeLine_of_isLiteral {p : Text} (h : isLiteral p = true) :
    decodeLine p = (p.map byte, true) := by
  fun_induction isLiteral p with
  | case1 => cases h
  | case2 a => rfl
  | case3 a b r ih =>
    rw [Bool.and_eq_true] at h
    rw [decodeLine, ih h.2]
    cases ha : Digits.hexValue? a with
    | none => rfl
    | some m =>
      cases hb : Digits.hexValue? b with
      | none => rfl
      | some n => simp [ha, hb] at h
  | case4 c r h1 h2 h3 ih =>
    rw [decodeLine, ih h]
    · rfl
    · exact h1
    · exact h2
    · exact h3
  | case5 => rfl

/-- Line breaks have no weight, since decoding may add them. -/
def weight (t : Text) : ℕ := t.countP fun c => c != '\r' && c != '\n'

def byteWeight (bs : Bytes) : ℕ := bs.countP fun b => b != 0x0D && b != 0x0A

theorem weight_append (s t : Text) : weight (s ++ t) = weight s + weight t := List.countP_append

theorem weight_cons (c : Char) (t : Text) : weight (c :: t) = weight [c] + weight t :=
  weight_append [c] t

theorem byteWeight_append (bs cs : Bytes) :
    byteWeight (bs ++ cs) = byteWeight bs + byteWeight cs := List.countP_append

theorem byteWeight_cons (b : UInt8) (bs : Bytes) :
    byteWeight (b :: bs) = byteWeight [b] + byteWeight bs := byteWeight_append [b] bs

theorem byteWeight_singleton_le (b : UInt8) : byteWeight [b] ≤ 1 := List.countP_le_length

theorem weight_singleton {c : Char} (hr : c ≠ '\r') (hn : c ≠ '\n') : weight [c] = 1 := by
  simp [weight, hr, hn]

theorem byte_inj {c d : Char} (hc : c.toNat < 128) (hd : d.toNat < 128) :
    byte c = byte d ↔ c = d := by
  constructor
  · intro h
    rw [← Char.toNat_inj, ← Utf8.toNat_ofNat hc, ← Utf8.toNat_ofNat hd]
    exact congrArg UInt8.toNat h
  · rintro rfl
    rfl

theorem byteWeight_byte_cons {c : Char} (bs : Bytes) (h : c.toNat < 128) :
    byteWeight (byte c :: bs) = weight [c] + byteWeight bs := by
  have hr : byte c = 0x0D ↔ c = '\r' := byte_inj h (d := '\r') (by decide)
  have hn : byte c = 0x0A ↔ c = '\n' := byte_inj h (d := '\n') (by decide)
  have hb : (byte c != 0x0D && byte c != 0x0A) = (c != '\r' && c != '\n') := by
    rw [Bool.eq_iff_iff]
    simp [hr, hn]
  rw [byteWeight_cons]
  simp only [byteWeight, weight, List.countP_singleton, hb]

theorem weight_of_hexValue {c : Char} {n : ℕ} (h : Digits.hexValue? c = some n) :
    weight [c] = 1 := by
  apply weight_singleton <;>
  · rintro rfl
    cases h

theorem weight_decodeLine {p : Text} (h : ∀ c ∈ p, c.toNat < 128) :
    byteWeight (decodeLine p).1 ≤ weight p ∧
      (weight p ≤ byteWeight (decodeLine p).1 → isLiteral p = true) := by
  fun_induction isLiteral p with
  | case1 => exact ⟨Nat.zero_le _, by decide⟩
  | case2 a =>
    simp only [List.forall_mem_cons] at h
    have hw : byteWeight [byte '=', byte a] = weight ['=', a] := by
      rw [byteWeight_byte_cons _ h.1, byteWeight_byte_cons _ h.2.1, weight_cons '=' [a]]
      rfl
    rw [decodeLine, hw]
    exact ⟨Nat.le_refl _, fun _ => rfl⟩
  | case3 a b r ih =>
    simp only [List.forall_mem_cons] at h
    obtain ⟨he, ha, hb, hr⟩ := h
    have hi := ih hr
    have hcopy : byteWeight (byte '=' :: byte a :: byte b :: (decodeLine r).1) =
        weight ['='] + (weight [a] + (weight [b] + byteWeight (decodeLine r).1)) := by
      rw [byteWeight_byte_cons _ he, byteWeight_byte_cons _ ha, byteWeight_byte_cons _ hb]
    have hw : weight ('=' :: a :: b :: r) =
        weight ['='] + (weight [a] + (weight [b] + weight r)) := by
      rw [weight_cons '=', weight_cons a, weight_cons b]
    rw [decodeLine, hw]
    cases hx : Digits.hexValue? a with
    | none =>
      dsimp only
      rw [hcopy]
      exact ⟨by omega, fun hle => by simpa using hi.2 (by omega)⟩
    | some m =>
      cases hy : Digits.hexValue? b with
      | none =>
        dsimp only
        rw [hcopy]
        exact ⟨by omega, fun hle => by simpa using hi.2 (by omega)⟩
      | some n =>
        -- An escape is three characters for one byte.
        have h1 := byteWeight_singleton_le (UInt8.ofNat (m * 16 + n))
        have h2 := weight_of_hexValue hx
        have h3 := weight_of_hexValue hy
        dsimp only
        rw [byteWeight_cons]
        exact ⟨by omega, fun hle => absurd hle (by omega)⟩
  | case4 c r h1 h2 h3 ih =>
    rw [List.forall_mem_cons] at h
    have hi := ih h.2
    have hd : (decodeLine (c :: r)).1 = byte c :: (decodeLine r).1 := by
      rw [decodeLine]
      · exact h1
      · exact h2
      · exact h3
    rw [hd, byteWeight_byte_cons _ h.1, weight_cons c r]
    exact ⟨by omega, fun hle => hi.2 (by omega)⟩
  | case5 => exact ⟨Nat.le_refl _, fun _ => rfl⟩

theorem weight_trimEnd (line : Text) : weight (Text.trimEnd line) ≤ weight line :=
  (List.rdropWhile_prefix _ _).sublist.countP_le

theorem weight_joinLines (closed : Bool) {lines : List Text}
    (h : ∀ line ∈ lines, ∀ c ∈ line, c.toNat < 128) :
    byteWeight (joinLines closed (lines.map Text.trimEnd)) ≤ (lines.map weight).sum ∧
      ((lines.map weight).sum ≤ byteWeight (joinLines closed (lines.map Text.trimEnd)) →
        ∀ line ∈ lines, isLiteral (Text.trimEnd line) = true) := by
  induction lines with
  | nil => exact ⟨Nat.le_refl _, by simp⟩
  | cons line lines ih =>
    rw [List.forall_mem_cons] at h
    have hbare : ∀ c ∈ Text.trimEnd line, c.toNat < 128 := fun c hc =>
      h.1 c ((List.rdropWhile_prefix _ _).mem hc)
    have hi := ih h.2
    have hl := weight_decodeLine hbare
    have ht := weight_trimEnd line
    have hb (ends : Bool) : byteWeight (if ends then [13, 10] else []) = 0 := by
      cases ends <;> rfl
    rw [List.map_cons, joinLines, List.map_cons, List.sum_cons, List.forall_mem_cons]
    dsimp only
    rw [byteWeight_append, byteWeight_append, hb]
    exact ⟨by omega, fun hle => ⟨hl.2 (by omega), hi.2 (by omega)⟩⟩

theorem weight_flatten (lines : List Text) : weight lines.flatten = (lines.map weight).sum :=
  List.countP_flatten

theorem weight_filter (t : Text) :
    weight (t.filter allowed) ≤ weight t ∧
      (weight t ≤ weight (t.filter allowed) → ∀ c ∈ t, allowed c = true) := by
  induction t with
  | nil => simp [weight]
  | cons c t ih =>
    rw [weight_cons c t, List.forall_mem_cons]
    by_cases hc : allowed c = true
    · rw [List.filter_cons_of_pos hc, weight_cons c (t.filter allowed)]
      exact ⟨by omega, fun hle => ⟨hc, ih.2 (by omega)⟩⟩
    · -- Both line breaks are allowed, so what is dropped has weight.
      have hw : weight [c] = 1 := by
        apply weight_singleton <;>
        · rintro rfl
          exact hc rfl
      rw [List.filter_cons_of_neg hc]
      exact ⟨by omega, fun hle => absurd hle (by omega)⟩

end MimeMail.QuotedPrintable

namespace MimeMail.Utf8

open QuotedPrintable (weight byteWeight)

theorem byteWeight_eq_zero {b : UInt8} (h : byteWeight [b] = 0) : b = 0x0D ∨ b = 0x0A := by
  by_contra hn
  rw [not_or] at hn
  simp [byteWeight, hn] at h

theorem weight_head? {b : UInt8} (bs : Bytes) :
    weight [(head? (b :: bs)).getD '\uFFFD'] ≤ byteWeight [b] := by
  by_cases hb : byteWeight [b] = 0
  · -- A byte without weight is a line break, and it is read as that.
    rcases byteWeight_eq_zero hb with rfl | rfl
    · have hr : head? (0x0D :: bs) = some '\r' := head?_append '\r' bs
      rw [hr]
      exact Nat.zero_le _
    · have hn : head? (0x0A :: bs) = some '\n' := head?_append '\n' bs
      rw [hn]
      exact Nat.zero_le _
  · have hle : weight [(head? (b :: bs)).getD '\uFFFD'] ≤ 1 := List.countP_le_length
    omega

theorem weight_go (n : ℕ) (bs : Bytes) :
    weight ((scan.go n bs).map (·.getD '\uFFFD')) ≤ byteWeight bs := by
  -- On the bytes, with those left to pass over: a character is counted at its first byte.
  induction bs generalizing n with
  | nil => cases n <;> exact Nat.le_refl _
  | cons b bs ih =>
    rw [QuotedPrintable.byteWeight_cons b bs]
    cases n with
    | succ n =>
      have hi := ih n
      rw [scan.go]
      omega
    | zero =>
      have hh := weight_head? (b := b) bs
      rw [scan.go]
      cases hc : head? (b :: bs) with
      | some c =>
        have hi := ih (c.utf8Size - 1)
        rw [hc] at hh
        dsimp only
        rw [List.map_cons, QuotedPrintable.weight_cons]
        exact Nat.add_le_add hh hi
      | none =>
        have hi := ih (brokenSize (b :: bs) - 1)
        rw [hc] at hh
        dsimp only
        rw [List.map_cons, QuotedPrintable.weight_cons]
        exact Nat.add_le_add hh hi

theorem weight_decodeLossy (bs : Bytes) : weight (decodeLossy bs) ≤ byteWeight bs := weight_go 0 bs

end MimeMail.Utf8

namespace MimeMail.QuotedPrintable

theorem joinLines_of_isLiteral {lines : List Text} (h : ∀ line ∈ lines, isLiteral line = true) :
    joinLines true lines = lines.flatMap fun line => (line ++ lineBreak).map byte := by
  induction lines with
  | nil => rfl
  | cons line lines ih =>
    rw [List.forall_mem_cons] at h
    rw [joinLines, decodeLine_of_isLiteral h.1, ih h.2, List.flatMap_cons, List.map_append]
    rfl

theorem eq_of_flatMap_cutAfter {t : Text}
    (h : ((Lines.cutAfter '\n' t).flatMap fun line => Text.trimEnd line ++ lineBreak) = t) :
    ∀ line ∈ Lines.cutAfter '\n' t, line = Text.trimEnd line ++ lineBreak := by
  induction t using Lines.line_induction '\n' with
  | last p hp =>
    by_cases hn : p = []
    · subst hn
      simp [Lines.cutAfter, Lines.cutAfter.go]
    · rw [Lines.cutAfter_of_not_mem hn hp] at h
      refine absurd ?_ hp
      rw [← h]
      simp [lineBreak]
  | line p r hp ih =>
    have hq : '\n' ∉ Text.trimEnd (p ++ ['\n']) ++ ['\r'] := by
      have ht : Text.trimEnd (p ++ ['\n']) <+: p := by
        rw [Text.trimEnd_eq_rdropWhile, Text.rdropWhile_append_of_all (by simp [Text.isBlank])]
        exact List.rdropWhile_prefix _ _
      simpa using fun hm => hp (ht.mem hm)
    rw [Lines.cutAfter_append_stop r hp] at h ⊢
    rw [List.flatMap_cons] at h
    have he : Text.trimEnd (p ++ ['\n']) ++ lineBreak =
        Text.trimEnd (p ++ ['\n']) ++ ['\r'] ++ ['\n'] := by
      simp [lineBreak]
    rw [he, List.append_assoc, List.singleton_append] at h
    have hcut := congrArg (Lines.cutAfter '\n') h
    rw [Lines.cutAfter_append_stop _ hq, Lines.cutAfter_append_stop r hp] at hcut
    have hline := (List.cons.inj hcut).1
    rw [List.append_cancel_right hline] at h
    rw [List.forall_mem_cons]
    exact ⟨hline.symm.trans he.symm, ih (List.cons.inj (List.append_cancel_left h)).2⟩

theorem decode_of_allowed {t : Text} (h : ∀ c ∈ t, allowed c = true)
    (hl : t.getLast? = some '\n') :
    decode t = joinLines true ((Lines.cutAfter '\n' t).map Text.trimEnd) := by
  rw [decode, List.filter_eq_self.mpr h, hl]
  rfl

theorem mem_of_mem_line {t line : Text} (h : line ∈ Lines.cutAfter '\n' t) : ∀ c ∈ line, c ∈ t := by
  intro c hc
  rw [← Lines.flatten_cutAfter '\n' t]
  exact List.mem_flatten_of_mem h hc

theorem decode_line {t : Text} (hn : '\n' ∉ t) (he : '=' ∉ t) :
    decode t = (Text.trimEnd (t.filter allowed)).map byte := by
  have hk : '\n' ∉ t.filter allowed := fun hm => hn (List.mem_filter.mp hm).1
  have hlit : isLiteral (Text.trimEnd (t.filter allowed)) = true := by
    apply isLiteral_of_not_mem
    exact fun hm => he (List.mem_filter.mp ((List.rdropWhile_prefix _ _).mem hm)).1
  have hlast : ((t.filter allowed).getLast? == some '\n') = false := by
    rw [beq_eq_false_iff_ne]
    exact fun hl => hk (List.mem_of_getLast? hl)
  rw [decode]
  rw [hlast]
  by_cases hnil : t.filter allowed = []
  · rw [hnil]
    rfl
  · rw [Lines.cutAfter_of_not_mem hnil hk, List.map_singleton, joinLines,
      decodeLine_of_isLiteral hlit]
    simp [joinLines]

theorem decodeLossy_decode {t : Text} (ha : ∀ c ∈ t, allowed c = true)
    (hl : t.getLast? = some '\n')
    (h : ∀ line ∈ Lines.cutAfter '\n' t, isLiteral (Text.trimEnd line) = true) :
    Utf8.decodeLossy (decode t) =
      (Lines.cutAfter '\n' t).flatMap fun line => Text.trimEnd line ++ lineBreak := by
  have hlit : ∀ line ∈ (Lines.cutAfter '\n' t).map Text.trimEnd, isLiteral line = true := by
    simpa using h
  have hbytes : (Lines.cutAfter '\n' t).flatMap
      (fun line => (Text.trimEnd line ++ lineBreak).map byte) =
      Utf8.encode ((Lines.cutAfter '\n' t).flatMap fun line => Text.trimEnd line ++ lineBreak) := by
    rw [← map_byte_eq_encode, List.map_flatMap]
    intro c hc
    obtain ⟨line, hm, hc⟩ := List.mem_flatMap.mp hc
    rcases List.mem_append.mp hc with hc | hc
    · exact lt_of_allowed (ha c (mem_of_mem_line hm c ((List.rdropWhile_prefix _ _).mem hc)))
    · rcases (by simpa [lineBreak] using hc : c = '\r' ∨ c = '\n') with rfl | rfl <;> decide
  rw [decode_of_allowed ha hl, joinLines_of_isLiteral hlit, List.flatMap_map, hbytes,
    Utf8.decodeLossy_encode]

theorem allowed_of_decode {t : Text} (h : Utf8.decodeLossy (decode t) = t) :
    (∀ c ∈ t, allowed c = true) ∧
      ∀ line ∈ Lines.cutAfter '\n' t, isLiteral (Text.trimEnd line) = true := by
  have hf := weight_filter t
  have hd := Utf8.weight_decodeLossy (decode t)
  have hk : ∀ line ∈ Lines.cutAfter '\n' (t.filter allowed), ∀ c ∈ line, c.toNat < 128 :=
    fun line hm c hc => lt_of_allowed (List.mem_filter.mp (mem_of_mem_line hm c hc)).2
  have hj := weight_joinLines ((t.filter allowed).getLast? == some '\n') hk
  rw [← weight_flatten, Lines.flatten_cutAfter] at hj
  change weight _ ≤ byteWeight (joinLines _ _) at hd
  rw [h] at hd
  have ha := hf.2 (by omega)
  have hline := hj.2 (by omega)
  rw [List.filter_eq_self.mpr ha] at hline
  exact ⟨ha, hline⟩

theorem decode_eq_iff {t : Text} (hl : t.getLast? = some '\n') :
    Utf8.decodeLossy (decode t) = t ↔ IsVerbatim t := by
  constructor
  · intro h
    obtain ⟨ha, hlit⟩ := allowed_of_decode h
    rw [decodeLossy_decode ha hl hlit] at h
    have hbreak := eq_of_flatMap_cutAfter h
    intro line hm
    exact ⟨hbreak line hm, List.all_eq_true.mpr fun c hc => ha c (mem_of_mem_line hm c hc),
      hlit line hm⟩
  · intro h
    have ha : ∀ c ∈ t, allowed c = true := by
      intro c hc
      rw [← Lines.flatten_cutAfter '\n' t] at hc
      obtain ⟨line, hm, hc⟩ := List.mem_flatten.mp hc
      exact List.all_eq_true.mp (h line hm).2.1 c hc
    rw [decodeLossy_decode ha hl fun line hm => (h line hm).2.2]
    have hmap : (Lines.cutAfter '\n' t).map (fun line => Text.trimEnd line ++ lineBreak) =
        Lines.cutAfter '\n' t := by
      conv_rhs => rw [← List.map_id (Lines.cutAfter '\n' t)]
      exact List.map_congr_left fun line hm => (h line hm).1.symm
    rw [List.flatMap_def, hmap, Lines.flatten_cutAfter]

end MimeMail.QuotedPrintable
