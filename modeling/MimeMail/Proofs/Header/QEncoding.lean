import MimeMail.Header.EncodedWord
import MimeMail.Proofs.Text.Digits
import MimeMail.Proofs.Text.Utf8

/-!
Q encoding by its rule, and what decoding makes of it. An escape is `=` with two hexadecimal digits,
but decoding also takes a plus sign for the first digit. So it follows the rule exactly on the byte
strings that have no such sign behind an `=`, among them all that are written for given bytes.
-/

namespace MimeMail.EncodedWord

def digit? (b : UInt8) : Option ℕ :=
  if 0x30 ≤ b.toNat ∧ b.toNat ≤ 0x39 then some (b.toNat - 0x30)
  else if 0x61 ≤ b.toNat ∧ b.toNat ≤ 0x66 then some (b.toNat - 0x61 + 10)
  else if 0x41 ≤ b.toNat ∧ b.toNat ≤ 0x46 then some (b.toNat - 0x41 + 10)
  else none

def pair? (a b : UInt8) : Option UInt8 :=
  (digit? a).bind fun m => (digit? b).map fun n => UInt8.ofNat (m * 16 + n)

/-- Reads from left to right: an underscore is a space, `=` with two digits is the byte that they
stand for, and any other byte stands for itself. -/
def scanQ : Bytes → Bytes
  | [] => []
  | 0x5F :: r => 0x20 :: scanQ r
  | 0x3D :: a :: b :: r =>
    match pair? a b with
    | some byte => byte :: scanQ r
    | none => 0x3D :: scanQ (a :: b :: r)
  | b :: r => b :: scanQ r

def unsigned : Bytes → Bytes
  | [] => []
  | 0x3D :: 0x2B :: b :: r =>
    if (digit? b).isSome then 0x3D :: 0x30 :: b :: unsigned r else 0x3D :: unsigned (0x2B :: b :: r)
  | b :: r => b :: unsigned r

def IsUnsigned (bs : Bytes) : Prop := ∀ b, [0x3D, 0x2B, b] <:+: bs → digit? b = none

def isAlphanumeric (b : UInt8) : Bool :=
  (0x30 ≤ b.toNat && b.toNat ≤ 0x39) || (0x41 ≤ b.toNat && b.toNat ≤ 0x5A) ||
    (0x61 ≤ b.toNat && b.toNat ≤ 0x7A)

def writtenDigit (capital : Bool) (n : ℕ) : UInt8 :=
  UInt8.ofNat (if n < 10 then 0x30 + n else if capital then 0x41 + (n - 10) else 0x61 + (n - 10))

def writtenByte (capital : Bool) (b : UInt8) : Bytes :=
  if b == 0x20 then [0x5F]
  else if isAlphanumeric b then [b]
  else [0x3D, writtenDigit capital (b.toNat / 16), writtenDigit capital (b.toNat % 16)]

def writeQ (capital : Bool) (bs : Bytes) : Bytes := bs.flatMap (writtenByte capital)

theorem hexValue?_char (b : UInt8) : Digits.hexValue? (Char.ofNat b.toNat) = digit? b := by
  rw [Digits.hexValue?_eq, Utf8.toNat_char]
  rfl

theorem hexByte?_eq (a b : UInt8) :
    hexByte? a b = if a = 0x2B then (digit? b).map UInt8.ofNat else pair? a b := by
  rw [hexByte?, hexValue?_char, hexValue?_char, pair?]
  by_cases ha : a = 0x2B
  · subst ha
    have hnone : digit? 0x2B = none := rfl
    cases digit? b <;> simp [hnone]
  · cases digit? a <;> cases digit? b <;> simp [ha]

theorem ne_of_digit? {b : UInt8} {n : ℕ} (h : digit? b = some n) : b ≠ 0x3D ∧ b ≠ 0x2B := by
  constructor <;>
  · rintro rfl
    cases h

theorem digit?_lt {b : UInt8} {n : ℕ} (h : digit? b = some n) : n < 16 := by
  unfold digit? at h
  split at h
  · cases h
    omega
  · split at h
    · cases h
      omega
    · split at h
      · cases h
        omega
      · cases h

theorem hexByte?_plus (b : UInt8) : hexByte? 0x2B b = (digit? b).map UInt8.ofNat := by
  rw [hexByte?_eq, if_pos rfl]

theorem hexByte?_pair {a b : UInt8} {m n : ℕ} (ha : digit? a = some m) (hb : digit? b = some n) :
    hexByte? a b = some (UInt8.ofNat (m * 16 + n)) := by
  rw [hexByte?_eq, if_neg (ne_of_digit? ha).2, pair?, ha, hb]
  rfl

theorem hexByte?_cases {a b byte : UInt8} (h : hexByte? a b = some byte) :
    (∃ m n, digit? a = some m ∧ digit? b = some n) ∨ (a = 0x2B ∧ ∃ n, digit? b = some n) := by
  rw [hexByte?_eq] at h
  split at h
  · next ha =>
    obtain ⟨n, hn, -⟩ := Option.map_eq_some_iff.mp h
    exact .inr ⟨ha, n, hn⟩
  · obtain ⟨m, hm, h⟩ := Option.bind_eq_some_iff.mp h
    obtain ⟨n, hn, -⟩ := Option.map_eq_some_iff.mp h
    exact .inl ⟨m, n, hm, hn⟩

def NoEscape (r : Bytes) : Prop := ∀ a b, [a, b] <+: r → hexByte? a b = none

theorem NoEscape.no_pair {r : Bytes} (h : NoEscape r) {a b : UInt8} (hp : [a, b] <+: r) :
    pair? a b = none := by
  have hnone := h a b hp
  rw [hexByte?_eq] at hnone
  split at hnone
  · next ha =>
    subst ha
    rfl
  · exact hnone

theorem NoEscape.no_sign {r : Bytes} (h : NoEscape r) {b : UInt8} (hp : [0x2B, b] <+: r) :
    digit? b = none := by
  have hnone := h 0x2B b hp
  rwa [hexByte?_plus, Option.map_eq_none_iff] at hnone

theorem escape_induction {motive : Bytes → Prop} (nil : motive [])
    (pair : ∀ a b r m n, digit? a = some m → digit? b = some n → motive r →
      motive (0x3D :: a :: b :: r))
    (sign : ∀ b r n, digit? b = some n → motive r → motive (0x3D :: 0x2B :: b :: r))
    (equals : ∀ r, NoEscape r → motive r → motive (0x3D :: r))
    (other : ∀ b r, b ≠ 0x3D → motive r → motive (b :: r)) (bs : Bytes) : motive bs := by
  fun_induction decodeQ bs with
  | case1 a b r byte h ih =>
    obtain ⟨m, n, hm, hn⟩ | ⟨rfl, n, hn⟩ := hexByte?_cases h
    · exact pair a b r m n hm hn ih
    · exact sign b r n hn ih
  | case2 a b r h ih =>
    apply equals _ _ ih
    intro c d hp
    obtain ⟨rfl, rfl⟩ : c = a ∧ d = b := by simpa using hp
    exact h
  | case3 b r h ih =>
    by_cases hb : b = 0x3D
    · subst hb
      apply equals r _ ih
      rintro c d ⟨t, rfl⟩
      exact (h c d t rfl rfl).elim
    · exact other b r hb ih
  | case4 => exact nil

theorem decodeQ_escape {a b byte : UInt8} (r : Bytes) (h : hexByte? a b = some byte) :
    decodeQ (0x3D :: a :: b :: r) = byte :: decodeQ r := by
  rw [decodeQ, h]

theorem decodeQ_equals {r : Bytes} (h : NoEscape r) : decodeQ (0x3D :: r) = 0x3D :: decodeQ r := by
  match r, h with
  | [], _ => rfl
  | [_], _ => rfl
  | a :: b :: r, h => rw [decodeQ, h a b ⟨r, rfl⟩]

theorem decodeQ_cons {b : UInt8} (r : Bytes) (h : b ≠ 0x3D) :
    decodeQ (b :: r) = (if b = 0x5F then 0x20 else b) :: decodeQ r := by
  rw [decodeQ]
  · simp only [beq_iff_eq]
  · rintro a c rest rfl
    exact absurd rfl h

theorem scanQ_pair {a b : UInt8} {m n : ℕ} (r : Bytes) (ha : digit? a = some m)
    (hb : digit? b = some n) :
    scanQ (0x3D :: a :: b :: r) = UInt8.ofNat (m * 16 + n) :: scanQ r := by
  rw [scanQ, pair?, ha, hb]
  rfl

theorem scanQ_equals {r : Bytes} (h : ∀ a b, [a, b] <+: r → pair? a b = none) :
    scanQ (0x3D :: r) = 0x3D :: scanQ r := by
  match r, h with
  | [], _ => rfl
  | [_], _ => rfl
  | a :: b :: r, h => rw [scanQ, h a b ⟨r, rfl⟩]

theorem scanQ_cons {b : UInt8} (r : Bytes) (h : b ≠ 0x3D) :
    scanQ (b :: r) = (if b = 0x5F then 0x20 else b) :: scanQ r := by
  by_cases hb : b = 0x5F
  · subst hb
    rfl
  · rw [if_neg hb, scanQ]
    · exact hb
    · rintro a c rest rfl
      exact absurd rfl h

theorem unsigned_cons {b : UInt8} (r : Bytes) (h : b ≠ 0x3D) :
    unsigned (b :: r) = b :: unsigned r := by
  rw [unsigned]
  rintro c rest rfl
  exact absurd rfl h

theorem unsigned_equals {r : Bytes} (h : ∀ b, [0x2B, b] <+: r → digit? b = none) :
    unsigned (0x3D :: r) = 0x3D :: unsigned r := by
  by_cases hr : ∃ b rest, r = 0x2B :: b :: rest
  · obtain ⟨b, rest, rfl⟩ := hr
    rw [unsigned, h b ⟨rest, rfl⟩]
    rfl
  · rw [unsigned]
    rintro b rest - rfl
    exact hr ⟨b, rest, rfl⟩

theorem head?_unsigned (bs : Bytes) : (unsigned bs).head? = bs.head? := by
  fun_cases unsigned bs <;> rfl

theorem prefix_of_unsigned {a b : UInt8} {bs : Bytes} (ha : a ≠ 0x3D) (h : [a, b] <+: unsigned bs) :
    [a, b] <+: bs := by
  obtain ⟨t, ht⟩ := h
  cases bs with
  | nil => cases ht
  | cons c r =>
    have hc := head?_unsigned (c :: r)
    rw [← ht] at hc
    obtain rfl : a = c := Option.some.inj hc
    rw [unsigned_cons r ha] at ht
    have hb := head?_unsigned r
    rw [← (List.cons.inj ht).2] at hb
    obtain ⟨rest, rfl⟩ := List.head?_eq_some_iff.mp hb.symm
    exact ⟨rest, rfl⟩

theorem NoEscape.no_pair_unsigned {r : Bytes} (h : NoEscape r) {a b : UInt8}
    (hp : [a, b] <+: unsigned r) : pair? a b = none := by
  by_cases ha : a = 0x3D
  · subst ha
    rfl
  · exact h.no_pair (prefix_of_unsigned ha hp)

theorem no_sign_of_digit {a : UInt8} {m : ℕ} (ha : digit? a = some m) (r : Bytes) :
    ∀ b, [0x2B, b] <+: a :: r → digit? b = none := by
  intro b hp
  exact absurd (List.cons_prefix_cons.mp hp).1.symm (ne_of_digit? ha).2

theorem decodeQ_unsigned (bs : Bytes) : decodeQ bs = scanQ (unsigned bs) := by
  induction bs using escape_induction with
  | nil => rfl
  | pair a b r m n ha hb ih =>
    rw [decodeQ_escape r (hexByte?_pair ha hb), unsigned_equals (no_sign_of_digit ha _),
      unsigned_cons _ (ne_of_digit? ha).1, unsigned_cons _ (ne_of_digit? hb).1, scanQ_pair _ ha hb, ih]
  | sign b r n hb ih =>
    have hbyte : hexByte? 0x2B b = some (UInt8.ofNat n) := by
      rw [hexByte?_plus, hb, Option.map_some]
    have hzero : digit? 0x30 = some 0 := rfl
    rw [decodeQ_escape r hbyte, unsigned, hb, Option.isSome_some, if_pos rfl, scanQ_pair _ hzero hb,
      Nat.zero_mul, Nat.zero_add, ih]
  | equals r h ih =>
    rw [decodeQ_equals h, unsigned_equals fun _ hp => h.no_sign hp,
      scanQ_equals fun _ _ hp => h.no_pair_unsigned hp, ih]
  | other b r hb ih => rw [decodeQ_cons r hb, unsigned_cons r hb, scanQ_cons _ hb, ih]

theorem isUnsigned_equals {r : Bytes} (h : ∀ b, [0x2B, b] <+: r → digit? b = none) :
    IsUnsigned (0x3D :: r) ↔ IsUnsigned r := by
  constructor
  · exact fun hu b hi => hu b (List.infix_cons hi)
  · intro hu b hi
    rcases List.infix_cons_iff.mp hi with hp | hi
    · exact h b (List.cons_prefix_cons.mp hp).2
    · exact hu b hi

theorem isUnsigned_cons {b : UInt8} (r : Bytes) (h : b ≠ 0x3D) :
    IsUnsigned (b :: r) ↔ IsUnsigned r := by
  constructor
  · exact fun hu c hi => hu c (List.infix_cons hi)
  · intro hu c hi
    rcases List.infix_cons_iff.mp hi with hp | hi
    · exact absurd (List.cons_prefix_cons.mp hp).1.symm h
    · exact hu c hi

theorem decodeQ_eq_iff (bs : Bytes) : decodeQ bs = scanQ bs ↔ IsUnsigned bs := by
  induction bs using escape_induction with
  | nil => exact iff_of_true rfl fun b hi => by cases List.infix_nil.mp hi
  | pair a b r m n ha hb ih =>
    rw [decodeQ_escape r (hexByte?_pair ha hb), scanQ_pair r ha hb, List.cons_inj_right, ih,
      isUnsigned_equals (no_sign_of_digit ha _), isUnsigned_cons _ (ne_of_digit? ha).1,
      isUnsigned_cons _ (ne_of_digit? hb).1]
  | sign b r n hb ih =>
    have hbyte : hexByte? 0x2B b = some (UInt8.ofNat n) := by
      rw [hexByte?_plus, hb, Option.map_some]
    have hplus : scanQ (0x3D :: 0x2B :: b :: r) = 0x3D :: scanQ (0x2B :: b :: r) := rfl
    rw [decodeQ_escape r hbyte, hplus]
    apply iff_of_false
    · -- A digit alone stands for less than the `=` that the rule keeps.
      intro he
      have hlt := digit?_lt hb
      have hvalue := congrArg UInt8.toNat (List.cons.inj he).1
      rw [UInt8.toNat_ofNat'] at hvalue
      change n % 256 = 61 at hvalue
      omega
    · intro hu
      have hnone := hu b (List.prefix_append [0x3D, 0x2B, b] r).isInfix
      cases hb.symm.trans hnone
  | equals r h ih =>
    rw [decodeQ_equals h, scanQ_equals fun _ _ hp => h.no_pair hp, List.cons_inj_right, ih,
      isUnsigned_equals fun _ hp => h.no_sign hp]
  | other b r hb ih =>
    rw [decodeQ_cons r hb, scanQ_cons r hb, List.cons_inj_right, ih, isUnsigned_cons r hb]

theorem digit?_writtenDigit (capital : Bool) :
    ∀ n < 16, digit? (writtenDigit capital n) = some n := by
  cases capital <;> decide

theorem decodeQ_writtenByte (capital : Bool) (b : UInt8) (r : Bytes) :
    decodeQ (writtenByte capital b ++ r) = b :: decodeQ r := by
  unfold writtenByte
  split
  · next hb =>
    rw [beq_iff_eq.mp hb]
    rfl
  · split
    · next hb =>
      have hequals : b ≠ 0x3D := by
        rintro rfl
        cases hb
      have hunderscore : b ≠ 0x5F := by
        rintro rfl
        cases hb
      rw [List.singleton_append, decodeQ_cons r hequals, if_neg hunderscore]
    · have hlt := b.toNat_lt
      have hhigh := digit?_writtenDigit capital (b.toNat / 16) (by omega)
      have hlow := digit?_writtenDigit capital (b.toNat % 16) (by omega)
      have hvalue : b.toNat / 16 * 16 + b.toNat % 16 = b.toNat := by omega
      have hpair := hexByte?_pair hhigh hlow
      rw [hvalue, UInt8.ofNat_toNat] at hpair
      exact decodeQ_escape r hpair

theorem decodeQ_writeQ (capital : Bool) (bs : Bytes) : decodeQ (writeQ capital bs) = bs := by
  induction bs with
  | nil => rfl
  | cons b bs ih =>
    rw [writeQ, List.flatMap_cons, decodeQ_writtenByte, ← writeQ, ih]

theorem decodeQ_eq_scanQ_iff (bs : Bytes) :
    decodeQ bs = scanQ (unsigned bs) ∧ (decodeQ bs = scanQ bs ↔ IsUnsigned bs) ∧
      ∀ capital, decodeQ (writeQ capital bs) = bs :=
  ⟨decodeQ_unsigned bs, decodeQ_eq_iff bs, fun capital => decodeQ_writeQ capital bs⟩

theorem sign_decoded :
    decodeQ (Utf8.encode "=+F".toList) ≠ scanQ (Utf8.encode "=+F".toList) ∧
      decode "=?UTF-8?Q?=+F?=".toList = ['\u000F'] := by
  decide +kernel

end MimeMail.EncodedWord
