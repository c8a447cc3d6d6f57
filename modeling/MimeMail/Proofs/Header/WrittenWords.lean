import MimeMail.Proofs.Header.Words

namespace MimeMail.EncodedWord

theorem mem_go {t piece : Text} {size : ℕ} (hs : (Utf8.encode piece.reverse).length = size)
    (hle : size ≤ wordBytes) :
    ∀ p ∈ pieces.go t piece size, p ≠ [] ∧ (Utf8.encode p).length ≤ wordBytes := by
  induction t generalizing piece size with
  | nil =>
    unfold pieces.go
    split
    · simp
    · next hn =>
      rw [List.forall_mem_singleton, hs]
      exact ⟨by simpa using hn, hle⟩
  | cons c t ih =>
    have hc : (Utf8.encode [c]).length = c.utf8Size := by simp [Utf8.encode]
    unfold pieces.go
    split
    · next hfits =>
      refine ih ?_ hfits
      rw [List.reverse_cons, Utf8.encode_append, List.length_append, hs, hc]
    · next hfull =>
      have hchar : c.utf8Size ≤ wordBytes := c.utf8Size_le_four.trans (by decide)
      rw [List.forall_mem_cons]
      refine ⟨⟨?_, hs ▸ hle⟩, ih hc hchar⟩
      intro hn
      rw [hn] at hs
      subst hs
      exact hfull (by simpa [Utf8.encode] using hchar)

theorem mem_pieces {t p : Text} (h : p ∈ pieces t) :
    p ≠ [] ∧ (Utf8.encode p).length ≤ wordBytes := by
  have hempty : (Utf8.encode ([] : Text).reverse).length = 0 := rfl
  exact mem_go hempty (Nat.zero_le wordBytes) p h

theorem length_write (p : Text) :
    (write p).length = ((Utf8.encode p).length + 2) / 3 * 4 + 12 := by
  have hopen : "=?UTF-8?B?".toList.length = 10 := by decide
  have hclose : "?=".toList.length = 2 := by decide
  unfold write
  simp only [List.length_append, Base64.length_encode, hopen, hclose]
  omega

theorem isAscii_join {words : List Text} (h : ∀ w ∈ words, ∀ c ∈ w, Text.isGraphic c = true) :
    Text.isAscii (Text.join [' '] words) = true := by
  rw [Text.isAscii, List.all_eq_true]
  intro c hc
  rcases Text.mem_join hc with hc | ⟨w, hw, hc⟩
  · rw [List.mem_singleton.mp hc]
    rfl
  · have hg := h w hw c hc
    simp only [Text.isGraphic, Bool.and_eq_true, decide_eq_true_eq] at hg ⊢
    omega

section

variable [Charset.Library]

structure IsWordOf (word piece : Text) : Prop where
  graphic : ∀ c ∈ word, Text.isGraphic c = true
  length : word.length ≤ 75
  ne_nil : piece ≠ []
  read : ∃ body, word = '=' :: '?' :: body ∧ read? body = some (piece, [])

theorem isWordOf_write {t p : Text} (h : p ∈ pieces t) : IsWordOf (write p) p := by
  obtain ⟨hne, hlen⟩ := mem_pieces h
  have hw : wordBytes = 45 := rfl
  refine ⟨fun c hc => isGraphic_write hc, ?_, hne, tail p [], ?_, read?_tail p []⟩
  · rw [length_write]
    omega
  · rw [← write_append, List.append_nil]

theorem encode_words {t : Text} (ht : Text.isAscii t = false) :
    ∃ words ps : List Text, encode t = Text.join [' '] words ∧ List.Forall₂ IsWordOf words ps ∧
      ps.flatten = t ∧ Text.isAscii (encode t) = true ∧ decode (encode t) = t := by
  have hencode : encode t = Text.join [' '] ((pieces t).map write) := by
    rw [encode, if_neg (by simp [ht])]
  have hwords : List.Forall₂ IsWordOf ((pieces t).map write) (pieces t) := by
    rw [List.forall₂_map_left_iff, List.forall₂_same]
    exact fun p hp => isWordOf_write hp
  refine ⟨(pieces t).map write, pieces t, hencode, hwords, flatten_pieces t, ?_, decode_encode ht⟩
  rw [hencode]
  apply isAscii_join
  intro w hw c hc
  obtain ⟨p, -, rfl⟩ := List.mem_map.mp hw
  exact isGraphic_write hc

end

theorem encode_words_blanks :
    Text.isAscii " é =?UTF-8?Q?a?= ".toList = false ∧
      decode (encode " é =?UTF-8?Q?a?= ".toList) = " é =?UTF-8?Q?a?= ".toList := by
  have ht : Text.isAscii " é =?UTF-8?Q?a?= ".toList = false := by decide +kernel
  obtain ⟨-, -, -, -, -, -, hdecode⟩ := encode_words ht
  exact ⟨ht, hdecode⟩

end MimeMail.EncodedWord
