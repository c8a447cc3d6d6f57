import MimeMail.Header.EncodedWord
import MimeMail.Proofs.Text.Marks
import MimeMail.Proofs.Text.Utf8
import MimeMail.Proofs.Transfer.Base64

namespace MimeMail.EncodedWord

theorem flatten_go (t piece : Text) (size : ℕ) :
    (pieces.go t piece size).flatten = piece.reverse ++ t := by
  induction t generalizing piece size with
  | nil => cases piece <;> simp [pieces.go]
  | cons c t ih =>
    rw [pieces.go]
    split
    · rw [ih]
      simp
    · rw [List.flatten_cons, ih]
      simp

theorem flatten_pieces (t : Text) : (pieces t).flatten = t := flatten_go t [] 0

theorem pieces_ne_nil {t : Text} (h : t ≠ []) : pieces t ≠ [] := by
  intro hp
  apply h
  rw [← flatten_pieces t, hp]
  rfl

theorem decodeBody?_encode (bs : Bytes) : decodeBody? ['B'] (Base64.encode bs) = some bs := by
  have ht : Text.IsTrimmed (Base64.encode bs) :=
    Text.isTrimmed_of_isGraphic fun c hc => (Base64.mem_encode hc).1
  rw [decodeBody?, if_pos (by decide), ht]
  exact Base64.decode?_encode bs

def tail (p r : Text) : Text :=
  "UTF-8".toList ++ '?' :: (['B'] ++ '?' :: (Base64.encode (Utf8.encode p) ++ '?' :: '=' :: r))

theorem write_append (p r : Text) : write p ++ r = '=' :: '?' :: tail p r := by
  unfold write
  rw [List.append_assoc]
  rfl

theorem ne_nil_of_isAscii {t : Text} (h : Text.isAscii t = false) : t ≠ [] := by
  rintro rfl
  cases h

theorem isGraphic_write {p : Text} {c : Char} (h : c ∈ write p) : Text.isGraphic c = true := by
  have ho : "=?UTF-8?B?".toList.all Text.isGraphic = true := rfl
  have he : "?=".toList.all Text.isGraphic = true := rfl
  unfold write at h
  rw [List.mem_append, List.mem_append] at h
  rcases h with (h | h) | h
  · exact List.all_eq_true.mp ho c h
  · exact (Base64.mem_encode h).1
  · exact List.all_eq_true.mp he c h

theorem isLine_encode {t : Text} (h : Text.IsLine t) : Text.IsLine (encode t) := by
  rw [encode]
  split
  · exact h
  · apply Text.isLine_join (by simp)
    intro w hw
    obtain ⟨p, -, rfl⟩ := List.mem_map.mp hw
    exact Text.isLine_of_isGraphic fun c hc => isGraphic_write hc

theorem write_ne_nil (p : Text) : write p ≠ [] := by
  have hw := write_append p []
  rw [List.append_nil] at hw
  rw [hw]
  exact List.cons_ne_nil _ _

theorem encode_ne_nil {t : Text} (h : Text.isAscii t = false) : encode t ≠ [] := by
  have hw : ∀ w ∈ (pieces t).map write, w ≠ [] := by
    intro w hw
    obtain ⟨p, -, rfl⟩ := List.mem_map.mp hw
    exact write_ne_nil p
  obtain ⟨p, ps, hp⟩ := List.exists_cons_of_ne_nil (pieces_ne_nil (ne_nil_of_isAscii h))
  have hhead : (Text.join [' '] ((pieces t).map write)).head? = _ := Text.head?_join hw
  intro he
  rw [encode, if_neg (by simp [h])] at he
  rw [he, hp, List.map_cons, List.head?_cons, Option.bind_some] at hhead
  exact write_ne_nil p (List.head?_eq_none_iff.mp hhead.symm)

theorem isTrimmed_encode {t : Text} (h : Text.isAscii t = false) : Text.IsTrimmed (encode t) := by
  have hw : ∀ w ∈ (pieces t).map write, Text.IsTrimmed w ∧ w ≠ [] := by
    intro w hw
    obtain ⟨p, -, rfl⟩ := List.mem_map.mp hw
    exact ⟨Text.isTrimmed_of_isGraphic fun c hc => isGraphic_write hc, write_ne_nil p⟩
  rw [encode, if_neg (by simp [h])]
  exact Text.isTrimmed_join hw

variable [Charset.Library]

theorem read?_tail (p r : Text) : read? (tail p r) = some (p, r) := by
  have hq : ¬ ['?', '='] <:+: Base64.encode (Utf8.encode p) := by
    intro h
    exact (Base64.mem_encode (h.mem List.mem_cons_self)).2 rfl
  have hc : Text.cutAt ['?'] (tail p r) = some ("UTF-8".toList, _) :=
    Text.cutAt_append_char _ (by simp)
  have he := Text.cutAt_append_char (Base64.encode (Utf8.encode p) ++ '?' :: '=' :: r)
    (show '?' ∉ ['B'] by decide)
  have hb := Text.cutAt_append_pair r (show '?' ≠ '=' by decide) hq
  have hn : ("UTF-8".toList.isEmpty || "UTF-8".toList.any Text.isBlank) = false := by
    decide +kernel
  have hd : Charset.decodeNamed? "UTF-8".toList (Utf8.encode p) = some p := by
    rw [Charset.decodeNamed?_utf8, Utf8.decodeLossy_encode]
  rw [read?, hc]
  dsimp only
  rw [hn, if_neg Bool.false_ne_true, he]
  dsimp only
  rw [hb]
  dsimp only
  rw [decodeBody?_encode, Option.bind_some, hd]
  rfl

theorem decodeFrom_of_cutAt {t before rest : Text} (afterWord : Bool)
    (h : Text.cutAt ['=', '?'] t = some (before, rest)) :
    decodeFrom afterWord t = (if afterWord && before.all Text.isBlank then [] else before) ++
      match read? rest with
      | some (word, rest) => word ++ decodeFrom true rest
      | none => '=' :: '?' :: decodeFrom false rest := by
  rw [decodeFrom]
  split
  · next hn => rw [hn] at h; cases h
  · next hs =>
    rw [h] at hs
    cases hs
    congr 1
    split <;> next hr => rw [hr]

theorem decodeFrom_plain {t : Text} (afterWord : Bool) (h : ¬ ['=', '?'] <:+: t) :
    decodeFrom afterWord t = t := by
  have hc := Text.cutAt_eq_none_iff.mpr h
  rw [decodeFrom]
  split
  · rfl
  · next hs => rw [hc] at hs; cases hs

theorem decodeFrom_write {gap : Text} (afterWord : Bool) (p r : Text) (h : ¬ ['=', '?'] <:+: gap) :
    decodeFrom afterWord (gap ++ (write p ++ r)) =
      (if afterWord && gap.all Text.isBlank then [] else gap) ++ (p ++ decodeFrom true r) := by
  rw [write_append, decodeFrom_of_cutAt _ (Text.cutAt_append_pair _ (by decide) h), read?_tail]

theorem decodeFrom_words {gap : Text} (afterWord : Bool) {ps : List Text} (r : Text) (hp : ps ≠ [])
    (h : ¬ ['=', '?'] <:+: gap) :
    decodeFrom afterWord (gap ++ (Text.join [' '] (ps.map write) ++ r)) =
      (if afterWord && gap.all Text.isBlank then [] else gap) ++
        (ps.flatten ++ decodeFrom true r) := by
  induction ps generalizing afterWord gap with
  | nil => exact absurd rfl hp
  | cons p ps ih =>
    by_cases hn : ps = []
    · subst hn
      simpa [Text.join] using decodeFrom_write afterWord p r h
    · have hi := ih true hn (show ¬ ['=', '?'] <:+: [' '] by decide)
      rw [List.map_cons, Text.join_cons (by simpa using hn), List.append_assoc (write p),
        List.append_assoc (write p), decodeFrom_write _ _ _ h, List.append_assoc [' '], hi]
      simp [Text.isBlank]

theorem decodeFrom_encode {gap t : Text} (afterWord : Bool) (r : Text) (ht : Text.isAscii t = false)
    (h : ¬ ['=', '?'] <:+: gap) :
    decodeFrom afterWord (gap ++ (encode t ++ r)) =
      (if afterWord && gap.all Text.isBlank then [] else gap) ++ (t ++ decodeFrom true r) := by
  rw [encode, if_neg (by simp [ht]), decodeFrom_words _ _ (pieces_ne_nil (ne_nil_of_isAscii ht)) h,
    flatten_pieces]

theorem decode_encode {t : Text} (ht : Text.isAscii t = false) : decode (encode t) = t := by
  have h := decodeFrom_encode false [] ht (show ¬ ['=', '?'] <:+: [] by simp)
  rw [List.append_nil, decodeFrom_plain true (by simp)] at h
  simpa [decode] using h

theorem decodeFrom_append {t r : Text} (afterWord : Bool) (h : ¬ ['=', '?'] <:+: t)
    (hs : t.getLast? ≠ some '=' ∨ r.head? ≠ some '?')
    (hb : afterWord = true → t.all Text.isBlank = false) :
    decodeFrom afterWord (t ++ r) = t ++ decodeFrom false r := by
  have hc := Text.cutAt_append_left h hs
  cases hr : Text.cutAt ['=', '?'] r with
  | none =>
    have hn : ¬ ['=', '?'] <:+: r := Text.cutAt_eq_none_iff.mp hr
    rw [hr] at hc
    rw [decodeFrom_plain false hn, decodeFrom_plain afterWord (Text.cutAt_eq_none_iff.mp hc)]
  | some cut =>
    obtain ⟨before, rest⟩ := cut
    rw [hr] at hc
    have hg : (afterWord && (t ++ before).all Text.isBlank) = false := by
      cases afterWord with
      | false => rfl
      | true => rw [List.all_append, hb rfl, Bool.false_and, Bool.and_false]
    rw [decodeFrom_of_cutAt _ hc, decodeFrom_of_cutAt _ hr, hg]
    simp

theorem decodeFrom_gap_append {gap t r : Text} (afterWord : Bool) (hg : ¬ ['=', '?'] <:+: gap)
    (hl : gap.getLast? ≠ some '=') (hb : afterWord = true → gap.all Text.isBlank = false)
    (ht : ¬ ['=', '?'] <:+: t) (hr : r.head? ≠ some '?') :
    decodeFrom afterWord (gap ++ (t ++ r)) = gap ++ (t ++ decodeFrom false r) := by
  have hgt : ¬ ['=', '?'] <:+: gap ++ t := Text.not_infix_append hg ht (.inl hl)
  rw [← List.append_assoc, decodeFrom_append _ hgt (.inr hr), List.append_assoc]
  intro ha
  rw [List.all_append, hb ha, Bool.false_and]

theorem decodeFrom_gap_encode {gap t : Text} (afterWord : Bool) (r : Text)
    (hg : ¬ ['=', '?'] <:+: gap) (hb : afterWord = true → gap.all Text.isBlank = false)
    (ht : Text.isAscii t = false) :
    decodeFrom afterWord (gap ++ (encode t ++ r)) = gap ++ (t ++ decodeFrom true r) := by
  have hgap : ¬ (afterWord && gap.all Text.isBlank) = true := by
    intro h
    obtain ⟨ha, hall⟩ := Bool.and_eq_true_iff.mp h
    rw [hb ha] at hall
    cases hall
  rw [decodeFrom_encode _ _ ht hg, if_neg hgap]

def reread (t : Text) : Text := if Text.isAscii t then decode (Text.trim t) else t

theorem decode_trim_encode (t : Text) : decode (Text.trim (encode t)) = reread t := by
  rw [reread]
  split
  · next h => rw [encode, if_pos h]
  · next h =>
    have h : Text.isAscii t = false := by simpa using h
    rw [isTrimmed_encode h, decode_encode h]

end MimeMail.EncodedWord
