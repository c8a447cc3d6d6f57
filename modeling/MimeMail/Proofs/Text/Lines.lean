import MimeMail.Header.Write
import MimeMail.Proofs.Text.Marks

namespace MimeMail.Lines

variable {α : Type} [BEq α] [LawfulBEq α] {stop : α}

theorem go_append_of_not_mem {p : List α} (r line : List α) (h : stop ∉ p) :
    cutAfter.go stop (p ++ r) line = cutAfter.go stop r (p.reverse ++ line) := by
  induction p generalizing line with
  | nil => rfl
  | cons a p ih =>
    rw [List.mem_cons, not_or] at h
    have ha : (a == stop) = false := beq_eq_false_iff_ne.mpr (Ne.symm h.1)
    rw [List.cons_append, cutAfter.go, if_neg (by simp [ha]), ih _ h.2]
    simp

theorem cutAfter_append_stop {p : List α} (r : List α) (h : stop ∉ p) :
    cutAfter stop (p ++ stop :: r) = (p ++ [stop]) :: cutAfter stop r := by
  rw [cutAfter, go_append_of_not_mem _ _ h, cutAfter.go, if_pos (beq_self_eq_true _)]
  simp [cutAfter]

theorem cutAfter_of_not_mem {p : List α} (hp : p ≠ []) (h : stop ∉ p) : cutAfter stop p = [p] := by
  have hg := go_append_of_not_mem [] [] h
  rw [List.append_nil] at hg
  rw [cutAfter, hg]
  simp [cutAfter.go, hp]

theorem line_induction (stop : α) {motive : List α → Prop} (last : ∀ p, stop ∉ p → motive p)
    (line : ∀ p r, stop ∉ p → motive r → motive (p ++ stop :: r)) (l : List α) : motive l := by
  induction h : l.length using Nat.strong_induction_on generalizing l with
  | _ n ih =>
    by_cases hl : stop ∈ l
    · obtain ⟨p, r, rfl, hp⟩ := List.eq_append_cons_of_mem hl
      refine line p r hp (ih r.length ?_ r rfl)
      simp at h
      omega
    · exact last l hl

theorem cutAfter_induction (stop : α) {motive : List α → Prop} (nil : motive [])
    (last : ∀ p, p ≠ [] → stop ∉ p → motive p)
    (line : ∀ p r, stop ∉ p → motive r → motive (p ++ stop :: r)) (l : List α) : motive l := by
  induction l using line_induction stop with
  | last p hp =>
    by_cases hn : p = []
    · exact hn ▸ nil
    · exact last p hn hp
  | line p r hp ih => exact line p r hp ih

theorem cutAfter_append {a b : List α} (h : ∀ x ∈ a.getLast?, x = stop) :
    cutAfter stop (a ++ b) = cutAfter stop a ++ cutAfter stop b := by
  induction a using line_induction stop with
  | last p hp =>
    cases hl : p.getLast? with
    | none =>
      rw [List.getLast?_eq_none_iff.mp hl]
      rfl
    | some x =>
      have hx : x = stop := h x hl
      exact absurd (hx ▸ List.mem_of_getLast? hl) hp
  | line p r hp ih =>
    have hr : ∀ x ∈ r.getLast?, x = stop := by
      intro x hx
      apply h
      rw [List.getLast?_append, List.getLast?_cons, Option.mem_def.mp hx]
      rfl
    rw [List.append_assoc, List.cons_append, cutAfter_append_stop _ hp, cutAfter_append_stop _ hp,
      ih hr, List.cons_append]

theorem mem_cutAfter_append {a d line : List α} (hd : stop ∉ d)
    (h : line ∈ cutAfter stop (a ++ (d ++ [stop]))) :
    line ∈ cutAfter stop a ∨ line = d ++ [stop] ∨
      ∃ l ∈ cutAfter stop a, line = l ++ (d ++ [stop]) := by
  induction a using line_induction stop with
  | last p hp =>
    have hpd : stop ∉ p ++ d := by simp [hp, hd]
    rw [← List.append_assoc, cutAfter_append_stop [] hpd, List.mem_cons] at h
    rcases h with rfl | h
    · by_cases hn : p = []
      · exact .inr (.inl (by simp [hn]))
      · exact .inr (.inr ⟨p, by simp [cutAfter_of_not_mem hn hp], by simp⟩)
    · cases h
  | line p r hp ih =>
    rw [List.append_assoc, List.cons_append, cutAfter_append_stop _ hp, List.mem_cons] at h
    rw [cutAfter_append_stop _ hp]
    rcases h with rfl | h
    · exact .inl List.mem_cons_self
    · rcases ih h with h | h | ⟨l, hl, h⟩
      · exact .inl (List.mem_cons_of_mem _ h)
      · exact .inr (.inl h)
      · exact .inr (.inr ⟨l, List.mem_cons_of_mem _ hl, h⟩)

theorem not_mem_of_mem_cutAfter {l line : List α} (h : line ∈ cutAfter stop l) :
    stop ∉ line.dropLast := by
  induction l using line_induction stop with
  | last p hp =>
    by_cases hn : p = []
    · subst hn
      cases h
    · rw [cutAfter_of_not_mem hn hp, List.mem_singleton] at h
      subst h
      exact fun hm => hp (List.mem_of_mem_dropLast hm)
  | line p r hp ih =>
    rw [cutAfter_append_stop _ hp, List.mem_cons] at h
    rcases h with rfl | h
    · simpa using hp
    · exact ih h

theorem dropBreak_append_lineBreak (p : Text) : dropBreak (p ++ lineBreak) = p := by
  simp [dropBreak, lineBreak]

theorem dropBreak_of_last {p : Text} (h : p.getLast? ≠ some '\n') : dropBreak p = p := by
  rw [← List.head?_reverse] at h
  unfold dropBreak
  split <;> simp_all

theorem dropBreak_newline {p : Text} (h : p.getLast? ≠ some '\r') :
    dropBreak (p ++ ['\n']) = p := by
  rcases List.eq_nil_or_concat p with rfl | ⟨q, c, rfl⟩
  · rfl
  · have hc : c ≠ '\r' := by simpa using h
    simp [dropBreak, hc]

theorem ofText_of_not_mem {p : Text} (hp : p ≠ []) (h : '\n' ∉ p) : ofText p = [p] := by
  have hl : p.getLast? ≠ some '\n' := fun hl => h (List.mem_of_getLast? hl)
  rw [ofText, cutAfter_of_not_mem hp h, List.map_singleton, dropBreak_of_last hl]

theorem last_of_append_newline {p r : Text} (h : (p ++ '\n' :: r).getLast? ≠ some '\n') :
    r ≠ [] ∧ r.getLast? ≠ some '\n' := by
  rcases List.eq_nil_or_concat r with rfl | ⟨s, c, rfl⟩
  · simp at h
  · simpa [List.getLast?_cons, List.getLast?_append] using h

theorem ofText_append_lineBreak {a : Text} (b : Text) (ha : a ≠ []) (hl : a.getLast? ≠ some '\n') :
    ofText (a ++ lineBreak ++ b) = ofText a ++ ofText b := by
  induction a using line_induction '\n' with
  | last p hp =>
    have hb : p ++ lineBreak ++ b = (p ++ ['\r']) ++ '\n' :: b := by simp [lineBreak]
    have hm : '\n' ∉ p ++ ['\r'] := by simpa using hp
    rw [hb, ofText, cutAfter_append_stop _ hm, List.map_cons, ofText_of_not_mem ha hp]
    have hd : dropBreak (p ++ ['\r'] ++ ['\n']) = p := by
      simpa [lineBreak] using dropBreak_append_lineBreak p
    rw [hd]
    rfl
  | line p r hp ih =>
    obtain ⟨hr, hrl⟩ := last_of_append_newline hl
    have hi := ih hr hrl
    simp only [ofText, List.append_assoc, List.cons_append] at hi ⊢
    rw [cutAfter_append_stop _ hp, cutAfter_append_stop _ hp, List.map_cons, List.map_cons, hi,
      List.cons_append]

theorem ofText_join {lines : List Text} (h : ∀ l ∈ lines, l ≠ [] ∧ l.getLast? ≠ some '\n') :
    ofText (Text.join lineBreak lines) = lines.flatMap ofText := by
  induction lines with
  | nil => rfl
  | cons line lines ih =>
    rw [List.forall_mem_cons] at h
    by_cases hl : lines = []
    · subst hl
      simp [Text.join]
    · rw [Text.join_cons hl, ofText_append_lineBreak _ h.1.1 h.1.2, ih h.2, List.flatMap_cons]

/-- Text that an empty line can follow: it does not end in a line feed, and no line of it is empty.
-/
structure IsBlock (t : Text) : Prop where
  ne_nil : t ≠ []
  last : t.getLast? ≠ some '\n'
  lines : ∀ line ∈ ofText t, line ≠ []

theorem isBlock_of_not_mem {t : Text} (hne : t ≠ []) (h : '\n' ∉ t) : IsBlock t := by
  refine ⟨hne, fun hl => h (List.mem_of_getLast? hl), ?_⟩
  rw [ofText_of_not_mem hne h]
  simpa using hne

theorem IsBlock.append {s t : Text} (hs : IsBlock s) (ht : IsBlock t) :
    IsBlock (s ++ lineBreak ++ t) := by
  refine ⟨by simp [lineBreak], ?_, ?_⟩
  · rw [List.getLast?_append_of_ne_nil _ ht.ne_nil]
    exact ht.last
  · rw [ofText_append_lineBreak t hs.ne_nil hs.last]
    exact List.forall_mem_append.mpr ⟨hs.lines, ht.lines⟩

theorem IsBlock.join {ts : List Text} (hne : ts ≠ []) (h : ∀ t ∈ ts, IsBlock t) :
    IsBlock (Text.join lineBreak ts) := by
  induction ts with
  | nil => exact absurd rfl hne
  | cons t ts ih =>
    rw [List.forall_mem_cons] at h
    by_cases hl : ts = []
    · subst hl
      exact h.1
    · rw [Text.join_cons hl]
      exact h.1.append (ih hl h.2)

theorem IsBlock.of_append_newline {p r : Text} (hp : '\n' ∉ p) (h : IsBlock (p ++ '\n' :: r)) :
    IsBlock r := by
  obtain ⟨hne, hl⟩ := last_of_append_newline h.last
  refine ⟨hne, hl, fun line hm => h.lines line ?_⟩
  rw [ofText, cutAfter_append_stop r hp, List.map_cons]
  exact List.mem_cons_of_mem _ hm

theorem IsBlock.not_prefix {t : Text} (h : IsBlock t) : ¬ ['\n'] <+: t ∧ ¬ lineBreak <+: t := by
  constructor
  · rintro ⟨r, rfl⟩
    refine h.lines [] ?_ rfl
    rw [List.singleton_append, ofText, ← List.nil_append ('\n' :: r),
      cutAfter_append_stop r List.not_mem_nil, List.map_cons]
    exact List.mem_cons_self
  · rintro ⟨r, rfl⟩
    refine h.lines [] ?_ rfl
    have hb : lineBreak ++ r = ['\r'] ++ '\n' :: r := rfl
    rw [hb, ofText, cutAfter_append_stop r (by decide), List.map_cons]
    exact List.mem_cons_self

theorem IsBlock.not_prefix_append {t : Text} (h : IsBlock t) : ¬ lineBreak <+: t ++ lineBreak := by
  intro hp
  obtain ⟨c, s, rfl⟩ := List.exists_cons_of_ne_nil h.ne_nil
  obtain ⟨rfl, hs⟩ := List.cons_prefix_cons.mp hp
  cases s with
  | nil => exact absurd hs (by decide)
  | cons d s =>
    obtain ⟨rfl, -⟩ := List.cons_prefix_cons.mp hs
    exact h.not_prefix.2 ⟨s, rfl⟩

theorem dropBreak_append_newline (p : Text) : dropBreak (p ++ ['\n']) <+: p := by
  rcases List.eq_nil_or_concat p with rfl | ⟨q, c, rfl⟩
  · simp [dropBreak]
  · by_cases hc : c = '\r'
    · simp [hc, dropBreak]
    · simp [dropBreak, hc]

theorem not_mem_of_mem_ofText {t line : Text} (h : line ∈ ofText t) : '\n' ∉ line := by
  obtain ⟨l, hl, rfl⟩ := List.mem_map.mp h
  have hd := not_mem_of_mem_cutAfter hl
  rcases List.eq_nil_or_concat l with rfl | ⟨q, c, rfl⟩
  · simp [dropBreak]
  · rw [List.concat_eq_append] at hd ⊢
    rw [List.dropLast_concat] at hd
    by_cases hc : c = '\n'
    · subst hc
      exact fun hm => hd ((dropBreak_append_newline q).mem hm)
    · have hn : (q ++ [c]).getLast? ≠ some '\n' := by simpa using hc
      rw [dropBreak_of_last hn]
      simpa [hd] using Ne.symm hc

end MimeMail.Lines
