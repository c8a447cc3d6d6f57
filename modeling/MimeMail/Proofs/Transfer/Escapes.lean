import MimeMail.Proofs.Text.Digits
import MimeMail.Proofs.Transfer.QuotedPrintable

namespace MimeMail.QuotedPrintable

inductive IsWritten : Bytes → Text → Prop
  | nil : IsWritten [] []
  | literal {c : Char} {bs : Bytes} {t : Text} (hgraphic : Text.isGraphic c = true) (hne : c ≠ '=')
      (h : IsWritten bs t) : IsWritten (byte c :: bs) (c :: t)
  | escape {x y : Char} {m n : ℕ} {bs : Bytes} {t : Text} (hx : Digits.hexValue? x = some m)
      (hy : Digits.hexValue? y = some n) (h : IsWritten bs t) :
      IsWritten (UInt8.ofNat (m * 16 + n) :: bs) ('=' :: x :: y :: t)
  | softBreak {stop : Text} {bs : Bytes} {t : Text} (hstop : stop = ['\n'] ∨ stop = lineBreak)
      (h : IsWritten bs t) : IsWritten bs ('=' :: (stop ++ t))

theorem isGraphic_of_hexValue {c : Char} {n : ℕ} (h : Digits.hexValue? c = some n) :
    Text.isGraphic c = true := by
  rw [Text.isGraphic, Bool.and_eq_true, decide_eq_true_eq, decide_eq_true_eq]
  rw [Digits.hexValue?_eq] at h
  split at h
  · omega
  · split at h
    · omega
    · split at h
      · omega
      · cases h

theorem allowed_of_isGraphic {c : Char} (h : Text.isGraphic c = true) : allowed c = true := by
  simp only [Text.isGraphic, Bool.and_eq_true, decide_eq_true_eq] at h
  rw [allowed_iff]
  omega

theorem IsWritten.allowed {bs : Bytes} {t : Text} (h : IsWritten bs t) :
    ∀ c ∈ t, QuotedPrintable.allowed c = true := by
  induction h with
  | nil => simp
  | literal hgraphic _ _ ih => exact List.forall_mem_cons.mpr ⟨allowed_of_isGraphic hgraphic, ih⟩
  | escape hx hy _ ih =>
    simp only [List.forall_mem_cons]
    exact ⟨rfl, allowed_of_isGraphic (isGraphic_of_hexValue hx),
      allowed_of_isGraphic (isGraphic_of_hexValue hy), ih⟩
  | softBreak hstop _ ih =>
    rw [List.forall_mem_cons, List.forall_mem_append]
    refine ⟨rfl, ?_, ih⟩
    rcases hstop with rfl | rfl <;> simp [QuotedPrintable.allowed, lineBreak]

def decodeLines (t : Text) : Bytes :=
  joinLines (t.getLast? == some '\n') ((Lines.cutAfter '\n' t).map Text.trimEnd)

theorem decode_eq_decodeLines {t : Text} (h : ∀ c ∈ t, allowed c = true) :
    decode t = decodeLines t := by
  rw [decode, List.filter_eq_self.mpr h]
  rfl

theorem trimEnd_append {unit : Text} (r : Text)
    (hlast : ∃ c ∈ unit.getLast?, Text.isBlank c = false) :
    Text.trimEnd (unit ++ r) = unit ++ Text.trimEnd r := by
  obtain ⟨c, hc, hblank⟩ := hlast
  obtain ⟨u, rfl⟩ := List.getLast?_eq_some_iff.mp hc
  unfold Text.trimEnd
  rw [List.reverse_append, List.dropWhile_append]
  split
  · next he => simp [List.isEmpty_iff.mp he, hblank]
  · simp

theorem decodeLines_append {unit : Text} {bs : Bytes} (t : Text) (hne : unit ≠ [])
    (hgraphic : ∀ c ∈ unit, Text.isGraphic c = true)
    (hunit : ∀ r, decodeLine (unit ++ r) = (bs ++ (decodeLine r).1, (decodeLine r).2)) :
    decodeLines (unit ++ t) = bs ++ decodeLines t := by
  have hn : '\n' ∉ unit := fun hm => absurd (hgraphic _ hm) (by decide)
  have hlast : ∃ c ∈ unit.getLast?, Text.isBlank c = false :=
    ⟨_, List.getLast?_eq_some_getLast hne,
      Text.isBlank_of_isGraphic (hgraphic _ (List.getLast_mem hne))⟩
  have hjoin (closed : Bool) (line : Text) (lines : List Text) :
      joinLines closed ((unit ++ line) :: lines) = bs ++ joinLines closed (line :: lines) := by
    simp [joinLines, hunit]
  unfold decodeLines
  induction t using Lines.cutAfter_induction '\n' with
  | nil =>
    have hopen : (unit.getLast? == some '\n') = false := by
      rw [beq_eq_false_iff_ne]
      exact fun hl => hn (List.mem_of_getLast? hl)
    have htrim := trimEnd_append [] hlast
    rw [List.append_nil] at htrim
    rw [List.append_nil, hopen, Lines.cutAfter_of_not_mem hne hn, List.map_singleton, htrim]
    exact hjoin false [] []
  | last p hp hnp =>
    have hnot : '\n' ∉ unit ++ p := by simp [hn, hnp]
    rw [List.getLast?_append_of_ne_nil _ hp,
      Lines.cutAfter_of_not_mem (List.append_ne_nil_of_right_ne_nil _ hp) hnot,
      Lines.cutAfter_of_not_mem hp hnp, List.map_singleton, List.map_singleton,
      trimEnd_append _ hlast, hjoin]
  | line p r hnp _ =>
    have hnot : '\n' ∉ unit ++ p := by simp [hn, hnp]
    rw [List.getLast?_append_of_ne_nil _ (by simp), ← List.append_assoc,
      Lines.cutAfter_append_stop r hnot, Lines.cutAfter_append_stop r hnp, List.map_cons,
      List.map_cons, List.append_assoc, trimEnd_append _ hlast, hjoin]

theorem decodeLines_softBreak {stop : Text} (t : Text) (hstop : stop = ['\n'] ∨ stop = lineBreak) :
    decodeLines ('=' :: (stop ++ t)) = decodeLines t := by
  have hcut : Lines.cutAfter '\n' ('=' :: (stop ++ t)) = ('=' :: stop) :: Lines.cutAfter '\n' t := by
    rcases hstop with rfl | rfl
    · exact Lines.cutAfter_append_stop (p := ['=']) t (by decide)
    · exact Lines.cutAfter_append_stop (p := ['=', '\r']) t (by decide)
  have htrim : Text.trimEnd ('=' :: stop) = ['='] := by rcases hstop with rfl | rfl <;> rfl
  have hskip (closed : Bool) (lines : List Text) :
      joinLines closed (['='] :: lines) = joinLines closed lines := by
    simp [joinLines, decodeLine]
  rw [decodeLines, hcut, List.map_cons, htrim, hskip, decodeLines]
  cases t with
  | nil => rfl
  | cons c t =>
    have hlast : ('=' :: (stop ++ c :: t)).getLast? = (c :: t).getLast? := by
      rw [← List.cons_append, List.getLast?_append_of_ne_nil _ (List.cons_ne_nil c t)]
    rw [hlast]

theorem decodeLine_cons {c : Char} (hc : c ≠ '=') (r : Text) :
    decodeLine (c :: r) = (byte c :: (decodeLine r).1, (decodeLine r).2) := by
  rw [decodeLine]
  · exact fun he => absurd he hc
  · exact fun _ he => absurd he hc
  · exact fun _ _ _ he => absurd he hc

theorem decodeLine_escape {x y : Char} {m n : ℕ} (hx : Digits.hexValue? x = some m)
    (hy : Digits.hexValue? y = some n) (r : Text) :
    decodeLine ('=' :: x :: y :: r) =
      (UInt8.ofNat (m * 16 + n) :: (decodeLine r).1, (decodeLine r).2) := by
  rw [decodeLine, hx, hy]

theorem decode_of_isWritten {bs : Bytes} {t : Text} (h : IsWritten bs t) : decode t = bs := by
  rw [decode_eq_decodeLines h.allowed]
  induction h with
  | nil => rfl
  | @literal c bs t hgraphic hne h ih =>
    have hunit (r : Text) : decodeLine ([c] ++ r) =
        ([byte c] ++ (decodeLine r).1, (decodeLine r).2) := decodeLine_cons hne r
    have happ := decodeLines_append t (List.cons_ne_nil c []) (by simpa using hgraphic) hunit
    exact happ.trans (congrArg (byte c :: ·) ih)
  | @escape x y m n bs t hx hy h ih =>
    have hgraphic : ∀ c ∈ ['=', x, y], Text.isGraphic c = true := by
      simp only [List.forall_mem_cons]
      exact ⟨rfl, isGraphic_of_hexValue hx, isGraphic_of_hexValue hy, by simp⟩
    have hunit (r : Text) : decodeLine (['=', x, y] ++ r) =
        ([UInt8.ofNat (m * 16 + n)] ++ (decodeLine r).1, (decodeLine r).2) :=
      decodeLine_escape hx hy r
    have happ := decodeLines_append t (List.cons_ne_nil _ _) hgraphic hunit
    exact happ.trans (congrArg (UInt8.ofNat (m * 16 + n) :: ·) ih)
  | softBreak hstop _ ih => rw [decodeLines_softBreak _ hstop, ih]

end MimeMail.QuotedPrintable
