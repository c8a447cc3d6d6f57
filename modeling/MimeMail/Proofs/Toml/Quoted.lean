import Mathlib
import MimeMail.Toml.Quoted

namespace MimeMail.Toml.Quoted

theorem ne_of_isPrintable {c : Char} (h : isPrintable c = true) : c ≠ '\n' ∧ c ≠ '\r' := by
  constructor <;>
  · rintro rfl
    exact absurd h (by decide)

theorem isPrintable_of_isControl {c : Char} (h : isControl c = false) (hn : c ≠ '\n') :
    isPrintable c = true := by
  simpa [isControl, hn] using h

theorem toNat_of_isControl {c : Char} (h : isControl c = true) : c.toNat < 32 ∨ c.toNat = 127 := by
  simp only [isControl, isPrintable, Bool.and_eq_true, Bool.not_eq_true', Bool.or_eq_false_iff,
    Bool.and_eq_false_iff, decide_eq_false_iff_not, bne_eq_false_iff_eq] at h
  omega

theorem numbered_eq (c : Char) :
    numbered c = ['\\', 'u', '0', '0', (Nat.digitChar (c.toNat / 16)).toUpper,
      (Nat.digitChar (c.toNat % 16)).toUpper] :=
  rfl

theorem scalar?_numbered {c : Char} (h : isControl c = true) :
    scalar? ['0', '0', (Nat.digitChar (c.toNat / 16)).toUpper, (Nat.digitChar (c.toNat % 16)).toUpper] =
      some c := by
  have hlow : ∀ n < 32, scalar? ['0', '0', (Nat.digitChar (n / 16)).toUpper,
      (Nat.digitChar (n % 16)).toUpper] = some (Char.ofNat n) := by
    decide
  have hc := Char.ofNat_toNat c
  rcases toNat_of_isControl h with hn | hn
  · rw [hlow c.toNat hn, hc]
  · rw [hn] at hc ⊢
    rw [← hc]
    rfl

theorem basic?_cons {c : Char} (hp : isPrintable c = true) (hq : c ≠ '"') (hb : c ≠ '\\')
    (r : Text) : basic? (c :: r) = (basic? r).map fun (t, rest) => (c :: t, rest) := by
  rw [basic?.eq_def]
  split <;> simp_all

theorem basicLines?_cons {c : Char} (hp : isPrintable c = true) (hq : c ≠ '"') (hb : c ≠ '\\')
    (r : Text) :
    basicLines? false (c :: r) = (basicLines? false r).map fun (t, rest) => (c :: t, rest) := by
  have hr := (ne_of_isPrintable hp).2
  rw [basicLines?] <;> simp [hp, hq, hb, hr]

theorem basicLines?_quote {r : Text} (h : ¬ ['"', '"'] <+: r) :
    basicLines? false ('"' :: r) = (basicLines? false r).map fun (t, rest) => ('"' :: t, rest) := by
  have hp : isPrintable '"' = true := by decide
  rw [basicLines?]
  · simp [hp]
  · rintro s - rfl
    exact h (List.prefix_append ['"', '"'] s)
  all_goals simp

def body? (lines : Bool) : Text → Option (Text × Text) := if lines then basicLines? false else basic?

def closing (lines : Bool) : Text := if lines then ['"', '"', '"'] else ['"']

theorem body?_written (lines : Bool) {c : Char} (hq : c ≠ '"') (r : Text) :
    body? lines (written lines c ++ r) = (body? lines r).map fun (t, rest) => (c :: t, rest) := by
  unfold written
  split
  · cases lines <;> rfl
  · cases lines <;> rfl
  · cases lines <;> rfl
  · cases lines <;> rfl
  · cases lines <;> rfl
  · cases lines <;> rfl
  · next hn _ _ hb =>
    split
    · next hc =>
      have hs := scalar?_numbered hc
      rw [numbered_eq]
      cases lines with
      | false =>
        change (scalar? [_, _, _, _]).bind _ = _
        rw [hs]
        rfl
      | true =>
        change (scalar? [_, _, _, _]).bind _ = _
        rw [hs]
        rfl
    · next hc =>
      have hp := isPrintable_of_isControl (by simpa using hc) hn
      cases lines
      · exact basic?_cons hp hq hb r
      · exact basicLines?_cons hp hq hb r

theorem body?_escapedQuote (lines : Bool) (r : Text) :
    body? lines ('\\' :: '"' :: r) = (body? lines r).map fun (t, rest) => ('"' :: t, rest) := by
  cases lines <;> rfl

theorem head_written (lines : Bool) (c : Char) (hq : c ≠ '"') :
    ∃ d w, written lines c = d :: w ∧ d ≠ '"' ∧ d ≠ '\r' ∧ (d = '\n' → c = '\n') := by
  have hescape (w : Text) : ∃ d v, '\\' :: w = d :: v ∧ d ≠ '"' ∧ d ≠ '\r' ∧ (d = '\n' → c = '\n') :=
    ⟨'\\', w, rfl, by decide, by decide, fun h => absurd h (by decide)⟩
  unfold written
  split
  · exact hescape _
  · exact hescape _
  · cases lines
    · exact hescape _
    · exact ⟨'\n', [], rfl, by decide, by decide, fun _ => rfl⟩
  · exact hescape _
  · exact hescape _
  · exact hescape _
  · next hr _ =>
    split
    · exact hescape _
    · exact ⟨c, [], rfl, hq, hr, id⟩

theorem head_escaped (lines : Bool) (run : ℕ) (c : Char) (t : Text) :
    ∃ d w, escaped lines run (c :: t) = d :: w ∧
      (d = '"' → c = '"' ∧ run < if lines then 2 else 0) ∧ d ≠ '\r' ∧ (d = '\n' → c = '\n') := by
  rw [escaped]
  by_cases hq : c = '"'
  · subst hq
    rw [if_pos (by decide)]
    by_cases hrun : run < if lines then 2 else 0
    · rw [if_pos hrun]
      exact ⟨'"', _, rfl, fun _ => ⟨rfl, hrun⟩, by decide, fun h => absurd h (by decide)⟩
    · rw [if_neg hrun]
      exact ⟨'\\', _, rfl, fun h => absurd h (by decide), by decide, fun h => absurd h (by decide)⟩
  · rw [if_neg (by simpa using hq)]
    obtain ⟨d, w, hw, hd, hr, hn⟩ := head_written lines c hq
    exact ⟨d, w ++ escaped lines 0 t, by rw [hw]; rfl, fun h => absurd h hd, hr, hn⟩

theorem lastQuotes_eq {quote : Char} {rest : Text} (h : rest.head? ≠ some quote) :
    lastQuotes quote rest = ([], rest) := by
  match rest, h with
  | [], _ => rfl
  | [a], h =>
    have ha : a ≠ quote := by simpa using h
    simp [lastQuotes, ha]
  | a :: b :: r, h =>
    have ha : a ≠ quote := by simpa using h
    simp [lastQuotes, ha]

theorem lastQuotes_cons {quote : Char} {rest : Text} (h : rest.head? ≠ some quote) :
    lastQuotes quote (quote :: rest) = ([quote], rest) := by
  cases rest with
  | nil => simp [lastQuotes]
  | cons a r =>
    have ha : a ≠ quote := by simpa using h
    simp [lastQuotes, ha]

theorem lastQuotes_cons_cons (quote : Char) (rest : Text) :
    lastQuotes quote (quote :: quote :: rest) = ([quote, quote], rest) := by
  simp [lastQuotes]

theorem basicLines?_closing (r : Text) :
    basicLines? false (closing true ++ r) = some (lastQuotes '"' r) := by
  change basicLines? false ('"' :: '"' :: '"' :: r) = _
  rw [basicLines?]
  simp

theorem eq_of_quotes_prefix {run : ℕ} {t rest : Text}
    (h : ['"', '"'] <+: escaped true (run + 1) t ++ closing true ++ rest) :
    t = [] ∨ run = 0 ∧ t = ['"'] := by
  rcases t with - | ⟨c, t⟩
  · exact .inl rfl
  right
  obtain ⟨d, w, hw, hd, -⟩ := head_escaped true (run + 1) c t
  obtain rfl : d = '"' := by
    rw [hw] at h
    exact (List.cons_prefix_cons.1 h).1.symm
  obtain ⟨rfl, hrun⟩ := hd rfl
  obtain rfl : run = 0 := by simpa using hrun
  refine ⟨rfl, ?_⟩
  rcases t with - | ⟨c, t⟩
  · rfl
  obtain ⟨d, v, hv, hd, -⟩ := head_escaped true 2 c t
  have hw : escaped true 1 ('"' :: c :: t) = '"' :: d :: v := by
    rw [escaped, ← hv]
    rfl
  rw [hw] at h
  obtain rfl : d = '"' := by simpa [List.cons_prefix_cons, eq_comm] using h
  exact absurd (hd rfl).2 (by decide)

theorem body?_escaped (lines : Bool) {rest : Text} (hr : rest.head? ≠ some '"') (run : ℕ)
    (t : Text) : body? lines (escaped lines run t ++ closing lines ++ rest) = some (t, rest) := by
  induction t generalizing run with
  | nil =>
    cases lines with
    | false => rfl
    | true => exact (basicLines?_closing rest).trans (by rw [lastQuotes_eq hr])
  | cons c t ih =>
    by_cases hq : c = '"'
    · subst hq
      rw [escaped, if_pos (by decide)]
      by_cases hrun : run < if lines then 2 else 0
      · rw [if_pos hrun]
        obtain rfl : lines = true := by
          cases lines
          · exact absurd hrun (Nat.not_lt_zero run)
          · rfl
        change basicLines? false ('"' :: (escaped true (run + 1) t ++ closing true ++ rest)) = _
        by_cases hx : ['"', '"'] <+: escaped true (run + 1) t ++ closing true ++ rest
        · rcases eq_of_quotes_prefix hx with rfl | ⟨rfl, rfl⟩
          · exact (basicLines?_closing ('"' :: rest)).trans (by rw [lastQuotes_cons hr])
          · exact (basicLines?_closing ('"' :: '"' :: rest)).trans (by rw [lastQuotes_cons_cons])
        · rw [basicLines?_quote hx, show basicLines? false _ = _ from ih (run + 1)]
          rfl
      · rw [if_neg hrun]
        change body? lines ('\\' :: '"' :: (escaped lines 0 t ++ closing lines ++ rest)) = _
        rw [body?_escapedQuote, ih]
        rfl
    · rw [escaped, if_neg (by simpa using hq), List.append_assoc, List.append_assoc,
        body?_written lines hq, ← List.append_assoc, ih]
      rfl

theorem literal?_append {t : Text} (ht : ∀ c ∈ t, isPrintable c = true ∧ c ≠ '\'') (rest : Text) :
    literal? (t ++ '\'' :: rest) = some (t, rest) := by
  induction t with
  | nil => rfl
  | cons c t ih =>
    obtain ⟨⟨hp, hc⟩, ht⟩ := List.forall_mem_cons.1 ht
    rw [List.cons_append, literal?, if_pos hp, ih ht]
    · rfl
    · exact hc

theorem literalLines?_cons {c : Char} (hc : c = '\n' ∨ isPrintable c = true) {r : Text}
    (hr : ¬ ['\'', '\'', '\''] <+: c :: r) :
    literalLines? (c :: r) = (literalLines? r).map fun (t, rest) => (c :: t, rest) := by
  have hcr : c ≠ '\r' := by
    rcases hc with rfl | hc
    · decide
    · exact (ne_of_isPrintable hc).2
  rw [literalLines?]
  · simp [hc]
  · rintro s rfl rfl
    exact hr (List.prefix_append ['\'', '\'', '\''] s)
  · exact fun s h => absurd h hcr

theorem literalLines?_closing (r : Text) :
    literalLines? ('\'' :: '\'' :: '\'' :: r) = some (lastQuotes '\'' r) := by
  rw [literalLines?]

theorem literalLines?_append {t rest : Text} (ht : ∀ c ∈ t, c = '\n' ∨ isPrintable c = true)
    (hq : ¬ ['\'', '\'', '\''] <:+: t) (hr : rest.head? ≠ some '\'') :
    literalLines? (t ++ '\'' :: '\'' :: '\'' :: rest) = some (t, rest) := by
  induction t with
  | nil => rw [List.nil_append, literalLines?_closing, lastQuotes_eq hr]
  | cons c t ih =>
    obtain ⟨hc, ht⟩ := List.forall_mem_cons.1 ht
    by_cases hx : ['\'', '\'', '\''] <+: c :: (t ++ '\'' :: '\'' :: '\'' :: rest)
    · -- The quotes begin at the last or the last but one of the text.
      match t, hx with
      | [], hx =>
        obtain rfl : c = '\'' := by simpa [eq_comm] using hx
        exact (literalLines?_closing _).trans (by rw [lastQuotes_cons hr])
      | [d], hx =>
        obtain ⟨rfl, rfl⟩ : c = '\'' ∧ d = '\'' := by simpa [eq_comm] using hx
        exact (literalLines?_closing _).trans (by rw [lastQuotes_cons_cons])
      | d :: e :: t, hx =>
        obtain ⟨rfl, rfl, rfl⟩ : c = '\'' ∧ d = '\'' ∧ e = '\'' := by simpa [eq_comm] using hx
        exact absurd (List.prefix_append ['\'', '\'', '\''] t).isInfix hq
    · rw [List.cons_append, literalLines?_cons hc hx,
        ih ht fun h => hq (h.trans (List.suffix_cons c t).isInfix)]
      rfl

theorem le_go (q : Char) (run : ℕ) (t : Text) : run ≤ longestRun.go q run t := by
  induction t generalizing run with
  | nil => rfl
  | cons c t ih =>
    rw [longestRun.go]
    split
    · exact (Nat.le_succ run).trans (ih (run + 1))
    · exact le_max_left _ _

theorem go_mono (q : Char) (t : Text) {m n : ℕ} (h : m ≤ n) :
    longestRun.go q m t ≤ longestRun.go q n t := by
  induction t generalizing m n with
  | nil => exact h
  | cons c t ih =>
    rw [longestRun.go, longestRun.go]
    split
    · exact ih (Nat.succ_le_succ h)
    · exact max_le_max_right _ h

theorem add_le_go {q : Char} {n : ℕ} {t : Text} (h : List.replicate n q <+: t) (run : ℕ) :
    run + n ≤ longestRun.go q run t := by
  induction n generalizing t run with
  | zero => exact le_go q run t
  | succ n ih =>
    obtain ⟨s, rfl⟩ := h
    rw [List.replicate_succ, List.cons_append, longestRun.go, if_pos (by simp)]
    have hle := ih (List.prefix_append _ s) (run + 1)
    omega

theorem le_longestRun {q : Char} {n : ℕ} {t : Text} (h : List.replicate n q <:+: t) :
    n ≤ longestRun q t := by
  change n ≤ longestRun.go q 0 t
  induction t with
  | nil =>
    have hn : n = 0 := by simpa using h.length_le
    omega
  | cons c t ih =>
    rcases List.infix_cons_iff.1 h with h | h
    · simpa using add_le_go h 0
    · refine (ih h).trans ?_
      rw [longestRun.go]
      split
      · exact go_mono q t (Nat.zero_le 1)
      · exact le_max_right _ _

theorem notMem_of_longestRun {q : Char} {t : Text} (h : longestRun q t = 0) : q ∉ t := by
  intro hq
  obtain ⟨s, r, rfl⟩ := List.append_of_mem hq
  have hone : 1 ≤ longestRun q (s ++ q :: r) := le_longestRun ⟨s, r, by simp⟩
  omega

theorem plain_of_form {t : Text} (h : form t = .literal ∨ form t = .literalLines) :
    ∀ c ∈ t, c = '\n' ∨ isPrintable c = true := by
  have hp : t.any isControl = false := by
    by_contra hn
    rw [Bool.not_eq_false] at hn
    simp only [form, hn, Bool.not_true, Bool.false_and, Bool.false_eq_true, if_false] at h
    split at h <;> simp at h
  intro c hc
  have hcontrol : isControl c = false := by simpa using List.any_eq_false.1 hp c hc
  by_cases hn : c = '\n'
  · exact .inl hn
  · exact .inr (isPrintable_of_isControl hcontrol hn)

theorem form_literal {t : Text} (h : form t = .literal) : '\n' ∉ t ∧ longestRun '\'' t = 0 := by
  simp only [form] at h
  split_ifs at h with h₁ h₂
  simp only [Bool.and_eq_true, Bool.not_eq_true', List.contains_eq_mem, decide_eq_false_iff_not,
    beq_iff_eq] at h₂
  exact ⟨h₂.1.2, h₂.2⟩

theorem form_literalLines {t : Text} (h : form t = .literalLines) : longestRun '\'' t ≤ 2 := by
  simp only [form] at h
  split_ifs at h with h₁ h₂ h₃ h₄
  simpa using (Bool.and_eq_true_iff.1 h₄).2

theorem not_quotes_prefix {q : Char} {t rest : Text} (ht : t.head? ≠ some q)
    (hr : rest.head? ≠ some q) : ¬ [q, q] <+: t ++ q :: rest := by
  intro h
  cases t with
  | nil =>
    obtain ⟨s, rfl⟩ := (List.cons_prefix_cons.1 h).2
    exact hr rfl
  | cons c t => exact ht (congrArg some (List.cons_prefix_cons.1 h).1.symm)

theorem read?_basic (t : Text) {rest : Text} (hr : rest.head? ≠ some '"') :
    read? ('"' :: escaped false 0 t ++ '"' :: rest) = some (t, rest) := by
  have hhead : (escaped false 0 t).head? ≠ some '"' := by
    cases t with
    | nil => simp [escaped]
    | cons c t =>
      obtain ⟨d, w, hw, hd, -⟩ := head_escaped false 0 c t
      rw [hw]
      exact fun h => absurd (hd (Option.some.inj h)).2 (Nat.not_lt_zero 0)
  have hquotes := not_quotes_prefix hhead hr
  rw [List.cons_append, read?]
  · rw [← body?_escaped false hr 0 t, List.append_assoc]
    rfl
  · rintro s hs
    exact hquotes (hs ▸ List.prefix_append ['"', '"'] s)

theorem read?_literal {t rest : Text} (ht : ∀ c ∈ t, isPrintable c = true ∧ c ≠ '\'')
    (hr : rest.head? ≠ some '\'') : read? ('\'' :: t ++ '\'' :: rest) = some (t, rest) := by
  have hhead : t.head? ≠ some '\'' := fun h => (ht _ (List.mem_of_mem_head? h)).2 rfl
  have hquotes := not_quotes_prefix hhead hr
  rw [List.cons_append, read?]
  · exact literal?_append ht rest
  · rintro s hs
    exact hquotes (hs ▸ List.prefix_append ['\'', '\''] s)

def firstBreak (t : Text) : Text := if t.contains '\n' then ['\n'] else []

theorem dropLineBreak_append {t s : Text}
    (h : '\n' ∉ t → s.head? ≠ some '\n' ∧ s.head? ≠ some '\r') :
    dropLineBreak (firstBreak t ++ s) = s := by
  by_cases ht : '\n' ∈ t
  · rw [firstBreak, if_pos (by simpa using ht)]
    rfl
  · rw [firstBreak, if_neg (by simpa using ht), List.nil_append]
    unfold dropLineBreak
    split
    · exact absurd rfl (h ht).1
    · exact absurd rfl (h ht).2
    · rfl

theorem read?_basicLines (t : Text) {rest : Text} (hr : rest.head? ≠ some '"') :
    read? ('"' :: '"' :: '"' :: (firstBreak t ++ (escaped true 0 t ++ '"' :: '"' :: '"' :: rest))) =
      some (t, rest) := by
  have hfirst : dropLineBreak (firstBreak t ++ (escaped true 0 t ++ '"' :: '"' :: '"' :: rest)) =
      escaped true 0 t ++ '"' :: '"' :: '"' :: rest := by
    apply dropLineBreak_append
    intro hn
    cases t with
    | nil => simp [escaped]
    | cons c t =>
      obtain ⟨d, w, hw, -, hreturn, hbreak⟩ := head_escaped true 0 c t
      have hd : d ≠ '\n' := fun h => hn (hbreak h ▸ List.mem_cons_self)
      simp [hw, hd, hreturn]
  rw [read?, hfirst, ← body?_escaped true hr 0 t, List.append_assoc]
  rfl

theorem read?_literalLines {t rest : Text} (ht : ∀ c ∈ t, c = '\n' ∨ isPrintable c = true)
    (hq : ¬ ['\'', '\'', '\''] <:+: t) (hr : rest.head? ≠ some '\'') :
    read? ('\'' :: '\'' :: '\'' :: (firstBreak t ++ (t ++ '\'' :: '\'' :: '\'' :: rest))) =
      some (t, rest) := by
  have hfirst : dropLineBreak (firstBreak t ++ (t ++ '\'' :: '\'' :: '\'' :: rest)) =
      t ++ '\'' :: '\'' :: '\'' :: rest := by
    apply dropLineBreak_append
    intro hn
    cases t with
    | nil => simp
    | cons c t =>
      have hc := (ht c List.mem_cons_self).resolve_left fun h => hn (h ▸ List.mem_cons_self)
      simp [ne_of_isPrintable hc]
  rw [read?, hfirst]
  exact literalLines?_append ht hq hr

theorem read?_write (t : Text) {rest : Text} (h₁ : rest.head? ≠ some '"')
    (h₂ : rest.head? ≠ some '\'') : read? (write t ++ rest) = some (t, rest) := by
  cases hf : form t with
  | basic =>
    have hw : write t ++ rest = '"' :: escaped false 0 t ++ '"' :: rest := by simp [write, hf]
    rw [hw, read?_basic t h₁]
  | literal =>
    obtain ⟨hn, hq⟩ := form_literal hf
    have ht : ∀ c ∈ t, isPrintable c = true ∧ c ≠ '\'' := fun c hc =>
      ⟨(plain_of_form (.inl hf) c hc).resolve_left fun h => hn (h ▸ hc),
        fun h => notMem_of_longestRun hq (h ▸ hc)⟩
    have hw : write t ++ rest = '\'' :: t ++ '\'' :: rest := by simp [write, hf]
    rw [hw, read?_literal ht h₂]
  | basicLines =>
    have hw : write t ++ rest =
        '"' :: '"' :: '"' :: (firstBreak t ++ (escaped true 0 t ++ '"' :: '"' :: '"' :: rest)) := by
      simp [write, hf, firstBreak]
    rw [hw, read?_basicLines t h₁]
  | literalLines =>
    have hq : ¬ ['\'', '\'', '\''] <:+: t := fun h =>
      absurd ((le_longestRun (n := 3) h).trans (form_literalLines hf)) (by decide)
    have hw : write t ++ rest =
        '\'' :: '\'' :: '\'' :: (firstBreak t ++ (t ++ '\'' :: '\'' :: '\'' :: rest)) := by
      simp [write, hf, firstBreak]
    rw [hw, read?_literalLines (plain_of_form (.inr hf)) hq h₂]

end MimeMail.Toml.Quoted
