import MimeMail.Proofs.Text.Blanks
import MimeMail.Transfer.Base64

namespace MimeMail.Base64

def sextets : Bytes → List ℕ
  | a :: b :: c :: r =>
    let n := (a.toNat * 256 + b.toNat) * 256 + c.toNat
    n / 0x40000 :: n / 0x1000 % 64 :: n / 64 % 64 :: n % 64 :: sextets r
  | [a, b] =>
    let n := a.toNat * 256 + b.toNat
    [n / 0x400, n / 16 % 64, n % 16 * 4]
  | [a] => [a.toNat / 4, a.toNat % 4 * 16]
  | [] => []

def padding (bs : Bytes) : Text := List.replicate ((3 - bs.length % 3) % 3) '='

theorem encode_eq (bs : Bytes) : encode bs = (sextets bs).map symbol ++ padding bs := by
  induction bs using encode.induct with
  | case1 a b c r ih =>
    have hp : padding (a :: b :: c :: r) = padding r := by
      simp only [padding, List.length_cons]
      congr 2
      omega
    rw [encode, ih, sextets, hp]
    rfl
  | case2 a b => rfl
  | case3 a => rfl
  | case4 => rfl

theorem sextets_lt (bs : Bytes) : ∀ n ∈ sextets bs, n < 64 := by
  induction bs using encode.induct with
  | case1 a b c r ih =>
    have ha := a.toNat_lt
    have hb := b.toNat_lt
    have hc := c.toNat_lt
    simp only [sextets, List.mem_cons]
    rintro m (rfl | rfl | rfl | rfl | hm)
    · omega
    · omega
    · omega
    · omega
    · exact ih m hm
  | case2 a b =>
    have ha := a.toNat_lt
    have hb := b.toNat_lt
    simp only [sextets, List.mem_cons, List.not_mem_nil, or_false]
    rintro m (rfl | rfl | rfl) <;> omega
  | case3 a =>
    have ha := a.toNat_lt
    simp only [sextets, List.mem_cons, List.not_mem_nil, or_false]
    rintro m (rfl | rfl) <;> omega
  | case4 => simp [sextets]

theorem ofNat_eq {a : UInt8} {n : ℕ} (h : n % 256 = a.toNat) : UInt8.ofNat n = a := by
  rw [← UInt8.toNat_inj, UInt8.toNat_ofNat']
  exact h

theorem ofGroups_sextets (bs : Bytes) : ofGroups (sextets bs) = some bs := by
  induction bs using encode.induct with
  | case1 a b c r ih =>
    have ha := a.toNat_lt
    have hb := b.toNat_lt
    have hc := c.toNat_lt
    simp only [sextets, ofGroups, ih, Option.map_some, Option.some.injEq, List.cons.injEq, and_true]
    refine ⟨ofNat_eq ?_, ofNat_eq ?_, ofNat_eq ?_⟩ <;> omega
  | case2 a b =>
    have ha := a.toNat_lt
    have hb := b.toNat_lt
    simp only [sextets, ofGroups, Option.some.injEq, List.cons.injEq, and_true]
    refine ⟨ofNat_eq ?_, ofNat_eq ?_⟩ <;> omega
  | case3 a =>
    have ha := a.toNat_lt
    simp only [sextets, ofGroups, Option.some.injEq, List.cons.injEq, and_true]
    apply ofNat_eq
    omega
  | case4 => rfl

theorem value?_symbol : ∀ n < 64, value? (symbol n) = some n := by decide

theorem symbol_ne_pad : ∀ n < 64, symbol n ≠ '=' := by decide

theorem mapM_value?_symbol {l : List ℕ} (h : ∀ n ∈ l, n < 64) :
    (l.map symbol).mapM value? = some l := by
  induction l with
  | nil => rfl
  | cons n l ih =>
    have hn := value?_symbol n (h n List.mem_cons_self)
    have hl := ih fun m hm => h m (List.mem_cons_of_mem _ hm)
    simp [hn, hl]

theorem length_padding (bs : Bytes) :
    (padding bs).length ≤ (4 - (sextets bs).length % 4) % 4 := by
  rw [padding, List.length_replicate]
  induction bs using encode.induct with
  | case1 a b c r ih =>
    simp only [sextets, List.length_cons] at ih ⊢
    omega
  | case2 a b => simp [sextets]
  | case3 a => simp [sextets]
  | case4 => simp [sextets]

theorem symbols_ne_pad (bs : Bytes) : ∀ c ∈ (sextets bs).map symbol, (c != '=') = true := by
  intro c hc
  obtain ⟨n, hn, rfl⟩ := List.mem_map.mp hc
  simpa using symbol_ne_pad n (sextets_lt bs n hn)

theorem mem_padding {bs : Bytes} {c : Char} (h : c ∈ padding bs) : c = '=' :=
  List.eq_of_mem_replicate h

theorem takeWhile_symbols_append {bs : Bytes} {p : Text} (hp : ∀ c ∈ p, c = '=') :
    ((sextets bs).map symbol ++ p).takeWhile (· != '=') = (sextets bs).map symbol := by
  have hnone : p.takeWhile (· != '=') = [] := by
    cases p with
    | nil => rfl
    | cons c p =>
      obtain rfl := hp c List.mem_cons_self
      rfl
  rw [List.takeWhile_append_of_pos (symbols_ne_pad bs), hnone, List.append_nil]

theorem decode?_append {bs : Bytes} {p : Text} (hp : ∀ c ∈ p, c = '=')
    (hl : p.length ≤ (padding bs).length) :
    decode? ((sextets bs).map symbol ++ p) = some bs := by
  have hdrop : ((sextets bs).map symbol ++ p).dropWhile (· != '=') = p := by
    rw [List.dropWhile_append_of_pos (symbols_ne_pad bs)]
    apply Text.dropWhile_eq_self
    intro c hc
    simp [hp c (List.mem_of_mem_head? hc)]
  have hle := hl.trans (length_padding bs)
  simp only [decode?, takeWhile_symbols_append hp, hdrop, List.length_map]
  rw [if_pos, mapM_value?_symbol (sextets_lt bs)]
  · exact ofGroups_sextets bs
  · simp only [Bool.and_eq_true, List.all_eq_true, beq_iff_eq, decide_eq_true_eq]
    exact ⟨hp, hle⟩

theorem decode?_encode (bs : Bytes) : decode? (encode bs) = some bs := by
  rw [encode_eq]
  exact decode?_append (fun _ => mem_padding) (le_refl _)

/-- A text that is written for bytes, with blanks anywhere in it and with all, some or none of its
padding. -/
structure IsWritten (bs : Bytes) (t : Text) : Prop where
  symbols : (encode bs).takeWhile (· != '=') <+: t.filter (!Text.isBlank ·)
  padding : t.filter (!Text.isBlank ·) <+: encode bs

instance (bs : Bytes) (t : Text) : Decidable (IsWritten bs t) :=
  decidable_of_iff ((encode bs).takeWhile (· != '=') <+: t.filter (!Text.isBlank ·) ∧
    t.filter (!Text.isBlank ·) <+: encode bs) ⟨fun h => ⟨h.1, h.2⟩, fun h => ⟨h.symbols, h.padding⟩⟩

theorem decode?_of_isWritten {bs : Bytes} {t : Text} (h : IsWritten bs t) :
    decode? (Text.words t).flatten = some bs := by
  obtain ⟨⟨p, hp⟩, hpadding⟩ := h
  rw [encode_eq, takeWhile_symbols_append fun _ => mem_padding] at hp
  rw [← hp, encode_eq, List.prefix_append_right_inj] at hpadding
  rw [Text.flatten_words, ← hp]
  exact decode?_append (fun c hc => mem_padding (hpadding.mem hc)) hpadding.length_le

theorem length_encode (bs : Bytes) : (encode bs).length = (bs.length + 2) / 3 * 4 := by
  induction bs using encode.induct with
  | case1 a b c r ih =>
    simp only [encode, List.length_cons, ih]
    omega
  | case2 a b => simp [encode]
  | case3 a => simp [encode]
  | case4 => rfl

theorem isGraphic_symbol : ∀ n < 64, Text.isGraphic (symbol n) = true ∧ symbol n ≠ '?' := by decide

theorem mem_encode {bs : Bytes} {c : Char} (h : c ∈ encode bs) :
    Text.isGraphic c = true ∧ c ≠ '?' := by
  rw [encode_eq] at h
  rcases List.mem_append.mp h with h | h
  · obtain ⟨n, hn, rfl⟩ := List.mem_map.mp h
    exact isGraphic_symbol n (sextets_lt bs n hn)
  · rw [List.eq_of_mem_replicate h]
    decide

end MimeMail.Base64
