import MimeMail.Proofs.Text.Blanks

namespace MimeMail.Text

theorem dropStart?_eq_none_iff {α : Type} [BEq α] [LawfulBEq α] {start l : List α} :
    dropStart? start l = none ↔ ¬ start <+: l := by
  rw [Option.eq_none_iff_forall_ne_some]
  constructor
  · rintro h ⟨r, rfl⟩
    exact h r (dropStart?_eq_some_iff.mpr rfl)
  · intro h r hr
    exact h ⟨r, (dropStart?_eq_some_iff.mp hr).symm⟩

theorem cutAt_eq_none_iff {mark t : Text} : cutAt mark t = none ↔ ¬ mark <:+: t := by
  induction t with
  | nil =>
    cases mark <;> simp [cutAt]
  | cons c t ih =>
    rw [cutAt, List.infix_cons_iff, not_or]
    cases h : dropStart? mark (c :: t) with
    | none => simp [ih, dropStart?_eq_none_iff.mp h]
    | some r =>
      have hp : mark <+: c :: t := ⟨r, (dropStart?_eq_some_iff.mp h).symm⟩
      simp [hp]

theorem cutAt_cons_of_none {mark t : Text} {c : Char} (h : ¬ mark <+: c :: t) :
    cutAt mark (c :: t) = (cutAt mark t).map fun (before, after) => (c :: before, after) := by
  rw [cutAt, dropStart?_eq_none_iff.mpr h]

theorem cutAt_append {mark t : Text} (r : Text) (hm : mark ≠ [])
    (h : ¬ mark <:+: t ++ mark.dropLast) : cutAt mark (t ++ mark ++ r) = some (t, r) := by
  induction t with
  | nil =>
    obtain ⟨c, m, rfl⟩ := List.exists_cons_of_ne_nil hm
    have hd : dropStart? (c :: m) (c :: m ++ r) = some r := dropStart?_eq_some_iff.mpr rfl
    simp only [List.nil_append, List.cons_append, cutAt] at hd ⊢
    rw [hd]
  | cons c t ih =>
    rw [List.cons_append, List.infix_cons_iff, not_or] at h
    have hp : ¬ mark <+: c :: (t ++ mark ++ r) := by
      intro hp
      apply h.1
      have hl : mark = mark.dropLast ++ [mark.getLast hm] := (List.dropLast_append_getLast hm).symm
      have hq : c :: (t ++ mark.dropLast) <+: c :: (t ++ mark ++ r) := by
        refine ⟨mark.getLast hm :: r, ?_⟩
        conv_rhs => rw [hl]
        simp
      apply List.prefix_of_prefix_length_le hp hq
      simp only [List.length_cons, List.length_append, List.length_dropLast]
      omega
    rw [List.cons_append, List.cons_append, cutAt_cons_of_none hp, ih h.2]
    rfl

theorem cutAt_append_char {c : Char} {t : Text} (r : Text) (h : c ∉ t) :
    cutAt [c] (t ++ c :: r) = some (t, r) := by
  have hi : ¬ [c] <:+: t ++ ([c] : Text).dropLast := by
    simpa [List.singleton_infix_iff] using h
  simpa using cutAt_append r (by simp) hi

theorem cutAt_char_eq_some_iff {c : Char} {t before after : Text} :
    cutAt [c] t = some (before, after) ↔ t = before ++ c :: after ∧ c ∉ before := by
  constructor
  · intro h
    have hc : c ∈ t := by simp [cutAt_eq_some h]
    obtain ⟨a, b, rfl, ha⟩ := List.eq_append_cons_of_mem hc
    rw [cutAt_append_char b ha] at h
    cases h
    exact ⟨rfl, ha⟩
  · rintro ⟨rfl, hc⟩
    exact cutAt_append_char after hc

theorem infix_append_singleton {a b c : Char} {t : Text} (hc : c ≠ b) :
    [a, b] <:+: t ++ [c] ↔ [a, b] <:+: t := by
  constructor
  · rintro ⟨s, r, h⟩
    rcases List.eq_nil_or_concat r with rfl | ⟨r', x, rfl⟩
    · have hl := congrArg List.getLast? h
      simp at hl
      exact absurd hl.symm hc
    · refine ⟨s, r', ?_⟩
      have hd := congrArg List.dropLast h
      simpa [← List.append_assoc] using hd
  · exact fun h => h.trans (List.prefix_append _ _).isInfix

theorem cutAt_append_pair {a b : Char} {t : Text} (r : Text) (hab : a ≠ b) (h : ¬ [a, b] <:+: t) :
    cutAt [a, b] (t ++ a :: b :: r) = some (t, r) := by
  have hi : ¬ [a, b] <:+: t ++ ([a, b] : Text).dropLast := by
    simpa [infix_append_singleton hab] using h
  simpa using cutAt_append r (by simp) hi

theorem cutAt_append_left {a b : Char} {t r : Text} (h : ¬ [a, b] <:+: t)
    (hs : t.getLast? ≠ some a ∨ r.head? ≠ some b) :
    cutAt [a, b] (t ++ r) =
      (cutAt [a, b] r).map fun (before, after) => (t ++ before, after) := by
  induction t with
  | nil => simp
  | cons c t ih =>
    rw [List.infix_cons_iff, not_or] at h
    have hp : ¬ [a, b] <+: c :: (t ++ r) := by
      rintro ⟨s, he⟩
      have hc : a = c := (List.cons.inj he).1
      have ht : b :: s = t ++ r := (List.cons.inj he).2
      subst hc
      cases t with
      | nil =>
        rw [List.nil_append] at ht
        simp [← ht] at hs
      | cons d t =>
        have hd : b = d := (List.cons.inj ht).1
        exact h.1 ⟨t, by rw [hd]; rfl⟩
    have hl : t.getLast? ≠ some a ∨ r.head? ≠ some b := by
      apply hs.imp_left
      intro hs ht
      apply hs
      rw [List.getLast?_cons, ht]
      rfl
    rw [List.cons_append, cutAt_cons_of_none hp, ih h.2 hl, Option.map_map]
    rfl

theorem not_infix_append {a b : Char} {t r : Text} (ht : ¬ [a, b] <:+: t) (hr : ¬ [a, b] <:+: r)
    (hs : t.getLast? ≠ some a ∨ r.head? ≠ some b) : ¬ [a, b] <:+: t ++ r := by
  rw [← cutAt_eq_none_iff] at hr ⊢
  rw [cutAt_append_left ht hs, hr]
  rfl

theorem not_infix_of_trim {a b : Char} {t : Text} (ha : isBlank a = false) (hb : isBlank b = false)
    (h : ¬ [a, b] <:+: trim t) : ¬ [a, b] <:+: t := by
  have hedge {s : Text} (hs : ∀ c ∈ s, isBlank c = true) : a ∉ s ∧ b ∉ s := by
    constructor <;> intro hm
    · exact absurd (hs a hm) (by simp [ha])
    · exact absurd (hs b hm) (by simp [hb])
  obtain ⟨s, r, ht, hs, hr⟩ := exists_trim t
  have hbefore : ¬ [a, b] <:+: s := fun hi => (hedge hs).1 (hi.mem List.mem_cons_self)
  have hafter : ¬ [a, b] <:+: r := fun hi => (hedge hr).1 (hi.mem List.mem_cons_self)
  rw [ht]
  apply not_infix_append hbefore
  · exact not_infix_append h hafter (.inr fun hh => (hedge hr).2 (List.mem_of_head? hh))
  · exact .inl fun hl => (hedge hs).1 (List.mem_of_getLast? hl)

theorem join_cons {mark t : Text} {ts : List Text} (h : ts ≠ []) :
    join mark (t :: ts) = t ++ mark ++ join mark ts := by
  cases ts with
  | nil => exact absurd rfl h
  | cons u ts => rfl

theorem mem_join {mark : Text} {ts : List Text} {c : Char} (h : c ∈ join mark ts) :
    c ∈ mark ∨ ∃ t ∈ ts, c ∈ t := by
  induction ts with
  | nil => simp [join] at h
  | cons t ts ih =>
    by_cases hts : ts = []
    · subst hts
      exact .inr ⟨t, by simp, h⟩
    · rw [join_cons hts, List.mem_append, List.mem_append] at h
      rcases h with (h | h) | h
      · exact .inr ⟨t, by simp, h⟩
      · exact .inl h
      · exact (ih h).imp_right fun ⟨u, hu, hc⟩ => ⟨u, by simp [hu], hc⟩

theorem isLine_join {mark : Text} {ts : List Text} (hm : IsLine mark) (h : ∀ t ∈ ts, IsLine t) :
    IsLine (join mark ts) := by
  intro c hc
  rcases mem_join hc with hc | ⟨t, ht, hc⟩
  · exact hm c hc
  · exact h t ht c hc

theorem not_infix_join {a b : Char} {mark : Text} {ts : List Text} (ha : a ∉ mark) (hb : b ∉ mark)
    (hm : mark ≠ []) (h : ∀ t ∈ ts, ¬ [a, b] <:+: t) : ¬ [a, b] <:+: join mark ts := by
  have hmark : ¬ [a, b] <:+: mark := fun hi => ha (hi.mem List.mem_cons_self)
  induction ts with
  | nil => simp [join]
  | cons t ts ih =>
    rw [List.forall_mem_cons] at h
    by_cases hn : ts = []
    · subst hn
      exact h.1
    · rw [join_cons hn, List.append_assoc]
      apply not_infix_append h.1
      · exact not_infix_append hmark (ih h.2) (.inl fun hl => ha (List.mem_of_getLast? hl))
      · right
        rw [List.head?_append_of_ne_nil _ hm]
        exact fun hh => hb (List.mem_of_head? hh)

theorem head?_join {mark : Text} {ts : List Text} (h : ∀ t ∈ ts, t ≠ []) :
    (join mark ts).head? = ts.head?.bind List.head? := by
  cases ts with
  | nil => rfl
  | cons t ts =>
    obtain ⟨c, t, rfl⟩ := List.exists_cons_of_ne_nil (h t List.mem_cons_self)
    cases ts <;> simp [join]

theorem getLast?_join {mark : Text} {ts : List Text} (h : ∀ t ∈ ts, t ≠ []) :
    (join mark ts).getLast? = ts.getLast?.bind List.getLast? := by
  induction ts with
  | nil => rfl
  | cons t ts ih =>
    rw [List.forall_mem_cons] at h
    by_cases hn : ts = []
    · subst hn
      rfl
    · have hl := List.getLast_mem hn
      obtain ⟨u, c, hu⟩ := List.eq_nil_or_concat (ts.getLast hn) |>.resolve_left (h.2 _ hl)
      rw [join_cons hn, List.getLast?_append, ih h.2, List.getLast?_cons,
        List.getLast?_eq_some_getLast hn, hu]
      simp

theorem join_concat {mark t : Text} {ts : List Text} (h : ts ≠ []) :
    join mark (ts ++ [t]) = join mark ts ++ (mark ++ t) := by
  induction ts with
  | nil => exact absurd rfl h
  | cons u ts ih =>
    by_cases hn : ts = []
    · subst hn
      simp [join]
    · rw [List.cons_append, join_cons (by simp), ih hn, join_cons hn]
      simp only [List.append_assoc]

theorem head_of_join {mark : Text} {ts : List Text} {c : Char} (hm : mark ≠ [])
    (h : c ∈ (join mark ts).head?) : c ∈ mark.head? ∨ ∃ t ∈ ts, c ∈ t.head? := by
  cases ts with
  | nil => cases h
  | cons t ts =>
    by_cases hn : ts = []
    · subst hn
      exact .inr ⟨t, by simp, h⟩
    · rw [join_cons hn] at h
      by_cases ht : t = []
      · subst ht
        rw [List.nil_append, List.head?_append_of_ne_nil _ hm] at h
        exact .inl h
      · rw [List.append_assoc, List.head?_append_of_ne_nil _ ht] at h
        exact .inr ⟨t, by simp, h⟩

theorem isTrimmed_join {mark : Text} {ts : List Text} (h : ∀ t ∈ ts, IsTrimmed t ∧ t ≠ []) :
    IsTrimmed (join mark ts) := by
  have hn : ∀ t ∈ ts, t ≠ [] := fun t ht => (h t ht).2
  apply isTrimmed_of_edges
  · intro c hc
    rw [head?_join hn] at hc
    obtain ⟨t, ht, hc⟩ := Option.bind_eq_some_iff.mp hc
    exact (h t (List.mem_of_head? ht)).1.head c hc
  · intro c hc
    rw [getLast?_join hn] at hc
    obtain ⟨t, ht, hc⟩ := Option.bind_eq_some_iff.mp hc
    exact (h t (List.mem_of_getLast? ht)).1.last c hc

end MimeMail.Text
