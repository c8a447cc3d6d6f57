import MimeMail.Proofs.Header.Addresses

/-!
Address lists as rows of mailboxes. A comma separates two mailboxes unless a quote or an angle
bracket is open where it stands. So mailboxes can be counted one by one in any list in which every
mailbox but the last one closes what it opens.
-/

namespace MimeMail.Mailbox

structure Opened where
  quoted : Bool := false
  angled : Bool := false
  deriving DecidableEq

namespace Opened

def next (s : Opened) (c : Char) : Opened where
  quoted := if c == '"' then !s.quoted else s.quoted
  angled := if s.quoted then s.angled else if c == '<' then true else if c == '>' then false
    else s.angled

def after (s : Opened) (t : Text) : Opened := t.foldl next s

def separates (s : Opened) (c : Char) : Bool := c == ',' && !s.quoted && !s.angled

def separators (s : Opened) : Text → ℕ
  | [] => 0
  | c :: t => (s.separates c).toNat + separators (s.next c) t

theorem next_of_separates {s : Opened} {c : Char} (h : s.separates c = true) : s.next c = s := by
  simp only [separates, Bool.and_eq_true, beq_iff_eq] at h
  obtain ⟨⟨rfl, -⟩, -⟩ := h
  cases s
  simp [next]

theorem after_append (s : Opened) (t u : Text) : s.after (t ++ u) = (s.after t).after u :=
  List.foldl_append

theorem separators_append (s : Opened) (t u : Text) :
    s.separators (t ++ u) = s.separators t + (s.after t).separators u := by
  induction t generalizing s with
  | nil => simp [separators, after]
  | cons c t ih =>
    have ha : s.after (c :: t) = (s.next c).after t := rfl
    rw [List.cons_append, separators, separators, ih, ha]
    omega

theorem after_eq_self {s : Opened} {t : Text} (h : ∀ c ∈ t, c ≠ '"' ∧ c ≠ '<' ∧ c ≠ '>') :
    s.after t = s := by
  induction t with
  | nil => rfl
  | cons c t ih =>
    rw [List.forall_mem_cons] at h
    have hn : s.next c = s := by
      cases s
      simp [next, h.1]
    have ha : s.after (c :: t) = (s.next c).after t := rfl
    rw [ha, hn, ih h.2]

theorem separators_eq_zero {s : Opened} {t : Text} (h : ',' ∉ t) : s.separators t = 0 := by
  induction t generalizing s with
  | nil => rfl
  | cons c t ih =>
    rw [List.mem_cons, not_or] at h
    have hc : s.separates c = false := by simp [separates, Ne.symm h.1]
    rw [separators, hc, ih h.2]
    rfl

theorem quoted_after_iff (t : Text) :
    (after {} t).quoted = true ↔ ¬ Even (t.count '"') := by
  induction t using List.reverseRecOn with
  | nil => simp [after]
  | append_singleton t c ih =>
    have ha : after {} (t ++ [c]) = (after {} t).next c := after_append {} t [c]
    by_cases hc : c = '"'
    · subst hc
      rw [ha, List.count_append, List.count_singleton_self, Nat.even_add_one, ← ih]
      simp [next]
    · have hcount : (t ++ [c]).count '"' = t.count '"' := by simp [hc]
      rw [ha, hcount, ← ih]
      simp [next, hc]

end Opened

/-- Texts that open and close the same and hold as many separators, wherever they stand. -/
structure Alike (t u : Text) : Prop where
  after : ∀ s : Opened, s.after t = s.after u
  separators : ∀ s : Opened, s.separators t = s.separators u

namespace Alike

variable {t u v w : Text}

theorem refl (t : Text) : Alike t t := ⟨fun _ => rfl, fun _ => rfl⟩

theorem append (h : Alike t u) (k : Alike v w) : Alike (t ++ v) (u ++ w) := by
  constructor <;> intro s
  · rw [Opened.after_append, Opened.after_append, h.after, k.after]
  · rw [Opened.separators_append, Opened.separators_append, h.after, h.separators, k.separators]

theorem of_blanks (h : ∀ c ∈ t, Text.isBlank c = true) : Alike t [] := by
  have hne {c d : Char} (hc : c ∈ t) (hd : Text.isBlank d = false) : c ≠ d := by
    rintro rfl
    rw [h c hc] at hd
    cases hd
  constructor <;> intro s
  · exact Opened.after_eq_self fun c hc => ⟨hne hc rfl, hne hc rfl, hne hc rfl⟩
  · exact Opened.separators_eq_zero fun hc => hne hc rfl rfl

theorem trim (t : Text) : Alike (Text.trim t) t := by
  obtain ⟨a, b, ht, ha, hb⟩ := Text.exists_trim t
  have h := (of_blanks ha).append ((refl (Text.trim t)).append (of_blanks hb))
  rw [← ht, List.nil_append, List.append_nil] at h
  exact ⟨fun s => (h.after s).symm, fun s => (h.separators s).symm⟩

end Alike

theorem go_cons (s : Opened) (c : Char) (t mailbox : Text) :
    split.go (c :: t) mailbox s.quoted s.angled =
      if s.separates c then mailbox.reverse :: split.go t [] s.quoted s.angled
      else split.go t (c :: mailbox) (s.next c).quoted (s.next c).angled := rfl

theorem length_go (s : Opened) (t mailbox : Text) :
    (split.go t mailbox s.quoted s.angled).length = s.separators t + 1 := by
  induction t generalizing s mailbox with
  | nil => rfl
  | cons c t ih =>
    rw [go_cons, Opened.separators]
    by_cases hc : s.separates c = true
    · rw [if_pos hc, List.length_cons, ih, Opened.next_of_separates hc, hc, Bool.toNat_true]
      omega
    · rw [if_neg hc, ih]
      simp [hc]

theorem length_split (t : Text) : (split t).length = Opened.separators {} t + 1 := length_go {} t []

theorem go_append {s : Opened} {p : Text} (r mailbox : Text) (h : s.separators p = 0) :
    split.go (p ++ r) mailbox s.quoted s.angled =
      split.go r (p.reverse ++ mailbox) (s.after p).quoted (s.after p).angled := by
  induction p generalizing s mailbox with
  | nil => rfl
  | cons c p ih =>
    rw [Opened.separators, Nat.add_eq_zero_iff] at h
    have hc : s.separates c = false := by simpa using h.1
    rw [List.cons_append, go_cons, if_neg (ne_true_of_eq_false hc), ih _ h.2, List.reverse_cons,
      List.append_assoc]
    rfl

structure IsClosed (m : Text) : Prop where
  single : Opened.separators {} m = 0
  after : Opened.after {} m = {}

theorem split_append {m : Text} (r : Text) (h : IsClosed m) :
    split (m ++ ',' :: r) = m :: split r := by
  have hg := go_append (',' :: r) [] h.single
  rw [h.after, List.append_nil] at hg
  have hm : split.go (',' :: r) m.reverse false false = m.reverse.reverse :: split r := rfl
  rw [List.reverse_reverse] at hm
  exact hg.trans hm

theorem split_of_single {m : Text} (h : Opened.separators {} m = 0) : split m = [m] := by
  have hg := go_append [] [] h
  rw [List.append_nil, List.append_nil, split.go, List.reverse_reverse] at hg
  exact hg

theorem go_eq_modifyHead (t mailbox : Text) (quoted angled : Bool) :
    split.go t mailbox quoted angled =
      (split.go t [] quoted angled).modifyHead (mailbox.reverse ++ ·) := by
  induction t generalizing mailbox quoted angled with
  | nil => simp [split.go]
  | cons c t ih =>
    unfold split.go
    split
    · simp
    · rw [ih (c :: mailbox), ih [c], List.modifyHead_modifyHead]
      simp [Function.comp_def]

theorem map_trim_split_cons_space (t : Text) :
    (split (' ' :: t)).map Text.trim = (split t).map Text.trim := by
  have hg : split (' ' :: t) = (split t).modifyHead ([' '] ++ ·) := go_eq_modifyHead t [' '] _ _
  have hb : Text.isBlank ' ' = true := rfl
  rw [hg]
  cases split t with
  | nil => rfl
  | cons m ms => simp [Text.trim_cons_blank hb]

theorem map_trim_split_join {ms : List Text} (hn : ms ≠ [])
    (h : ∀ m ∈ ms, IsClosed m ∧ Text.IsTrimmed m) :
    (split (Text.join [',', ' '] ms)).map Text.trim = ms := by
  induction ms with
  | nil => exact absurd rfl hn
  | cons m ms ih =>
    rw [List.forall_mem_cons] at h
    have htrim : Text.trim m = m := h.1.2
    by_cases hms : ms = []
    · subst hms
      rw [Text.join, split_of_single h.1.1.single, List.map_singleton, htrim]
    · have hj : m ++ [',', ' '] ++ Text.join [',', ' '] ms =
          m ++ ',' :: ' ' :: Text.join [',', ' '] ms := by simp
      rw [Text.join_cons hms, hj, split_append _ h.1.1, List.map_cons, map_trim_split_cons_space,
        ih hms h.2, htrim]

/-- The mailboxes of a list: all are single, and all but the last one are closed. -/
structure IsRow (ms : List Text) : Prop where
  ne_nil : ms ≠ []
  single : ∀ m ∈ ms, Opened.separators {} m = 0
  after : ∀ m ∈ ms.dropLast, Opened.after {} m = {}

theorem isRow_go {s : Opened} {mailbox : Text} (t : Text)
    (hs : Opened.after {} mailbox.reverse = s) (hm : Opened.separators {} mailbox.reverse = 0) :
    IsRow (split.go t mailbox s.quoted s.angled) := by
  induction t generalizing s mailbox with
  | nil => exact ⟨by simp [split.go], by simpa [split.go] using hm, by simp [split.go]⟩
  | cons c t ih =>
    rw [go_cons]
    by_cases hc : s.separates c = true
    · -- A separator stands where nothing is open.
      have hopen : s = {} := by
        cases s
        simp_all [Opened.separates]
      have hrow : IsRow (split.go t [] s.quoted s.angled) := ih hopen.symm rfl
      rw [if_pos hc]
      refine ⟨List.cons_ne_nil _ _, ?_, ?_⟩
      · exact List.forall_mem_cons.mpr ⟨hm, hrow.single⟩
      · rw [List.dropLast_cons_of_ne_nil hrow.ne_nil]
        exact List.forall_mem_cons.mpr ⟨hs.trans hopen, hrow.after⟩
    · rw [if_neg hc]
      rw [Bool.not_eq_true] at hc
      have hs' : Opened.after {} (c :: mailbox).reverse = s.next c := by
        rw [List.reverse_cons, Opened.after_append, hs]
        rfl
      have hm' : Opened.separators {} (c :: mailbox).reverse = 0 := by
        rw [List.reverse_cons, Opened.separators_append, hs, hm]
        simp [Opened.separators, hc]
      exact ih hs' hm'

theorem isRow_split (t : Text) : IsRow (split t) := isRow_go t rfl rfl

theorem join_go (t mailbox : Text) (quoted angled : Bool) :
    Text.join [','] (split.go t mailbox quoted angled) = mailbox.reverse ++ t := by
  induction t generalizing mailbox quoted angled with
  | nil => simp [split.go, Text.join]
  | cons c t ih =>
    rw [split.go]
    split
    · next hc =>
      have hcomma : c = ',' := by
        simp only [Bool.and_eq_true, beq_iff_eq] at hc
        exact hc.1.1
      have hne : split.go t [] quoted angled ≠ [] := by
        rw [← List.length_pos_iff, length_go ⟨quoted, angled⟩ t []]
        exact Nat.succ_pos _
      rw [Text.join_cons hne, ih, hcomma]
      simp
    · rw [ih]
      simp

theorem join_split (t : Text) : Text.join [','] (split t) = t := join_go t [] false false

theorem separators_join {ms : List Text} (hn : ms ≠ [])
    (h : ∀ m ∈ ms.dropLast, Opened.after {} m = {}) :
    Opened.separators {} (Text.join [',', ' '] ms) + 1 =
      (ms.map fun m => (split m).length).sum := by
  induction ms with
  | nil => exact absurd rfl hn
  | cons m ms ih =>
    by_cases hms : ms = []
    · subst hms
      simp [Text.join, length_split]
    · rw [List.dropLast_cons_of_ne_nil hms, List.forall_mem_cons] at h
      have hcomma : Opened.separators {} [',', ' '] = 1 := rfl
      have hafter : Opened.after {} [',', ' '] = {} := rfl
      rw [Text.join_cons hms, Opened.separators_append, Opened.separators_append,
        Opened.after_append, h.1, hcomma, hafter, List.map_cons, List.sum_cons, ← ih hms h.2,
        length_split]
      omega

end MimeMail.Mailbox
