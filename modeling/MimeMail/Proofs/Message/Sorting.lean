import Mathlib
import MimeMail.Message.Session

/-!
Lists of messages with the newest first. Sorting keeps messages of one date in their order, and such
a list is decided by what it has of each date. So it does not matter whether and when a list was
sorted while it grew.
-/

namespace MimeMail.Instant

theorem isAfter_eq_false_iff {x y : Instant} :
    x.isAfter y = false ↔ x.secs < y.secs ∨ x.secs = y.secs ∧ x.nanos ≤ y.nanos := by
  simp only [isAfter, Bool.or_eq_false_iff, Bool.and_eq_false_iff, decide_eq_false_iff_not,
    beq_eq_false_iff_ne]
  omega

theorem isAfter_self (x : Instant) : x.isAfter x = false := by
  simp [isAfter_eq_false_iff]

theorem not_isAfter_trans {x y z : Instant} (hxy : x.isAfter y = false)
    (hyz : y.isAfter z = false) : x.isAfter z = false := by
  rw [isAfter_eq_false_iff] at *
  omega

theorem not_isAfter_total (x y : Instant) : x.isAfter y = false ∨ y.isAfter x = false := by
  simp only [isAfter_eq_false_iff]
  omega

theorem isAfter_asymm {x y : Instant} (h : x.isAfter y = true) : y.isAfter x = false := by
  rcases not_isAfter_total x y with hxy | hyx
  · rw [hxy] at h
    cases h
  · exact hyx

theorem eq_of_not_isAfter {x y : Instant} (hxy : x.isAfter y = false) (hyx : y.isAfter x = false) :
    x = y := by
  rw [isAfter_eq_false_iff] at *
  cases x
  cases y
  simp only [mk.injEq] at *
  omega

theorem ne_of_isAfter {x y : Instant} (h : x.isAfter y = true) : x ≠ y := by
  rintro rfl
  rw [isAfter_self] at h
  cases h

theorem isAfter_trichotomy (x y : Instant) : x.isAfter y = true ∨ x = y ∨ y.isAfter x = true := by
  by_contra h
  simp only [not_or, Bool.not_eq_true] at h
  exact h.2.1 (eq_of_not_isAfter h.1 h.2.2)

end MimeMail.Instant

namespace MimeMail.Message

def isNotOlder (m n : Message) : Bool := !n.header.date.isAfter m.header.date

theorem isNotOlder_iff {m n : Message} :
    isNotOlder m n = true ↔ n.header.date.isAfter m.header.date = false := by
  simp [isNotOlder]

theorem isNotOlder_trans (l m n : Message) (hlm : isNotOlder l m = true)
    (hmn : isNotOlder m n = true) : isNotOlder l n = true := by
  rw [isNotOlder_iff] at *
  exact Instant.not_isAfter_trans hmn hlm

theorem isNotOlder_total (m n : Message) : (isNotOlder m n || isNotOlder n m) = true := by
  rw [Bool.or_eq_true, isNotOlder_iff, isNotOlder_iff]
  exact Instant.not_isAfter_total _ _

theorem newestFirst_perm (messages : List Message) : (newestFirst messages).Perm messages :=
  List.mergeSort_perm messages isNotOlder

theorem pairwise_newestFirst (messages : List Message) :
    (newestFirst messages).Pairwise fun m n => isNotOlder m n = true :=
  List.pairwise_mergeSort isNotOlder_trans isNotOlder_total messages

def datedAt (date : Instant) (messages : List Message) : List Message :=
  messages.filter (·.header.date = date)

theorem mem_datedAt {date : Instant} {messages : List Message} {m : Message} :
    m ∈ datedAt date messages ↔ m ∈ messages ∧ m.header.date = date := by
  simp [datedAt]

theorem datedAt_append (date : Instant) (ms ns : List Message) :
    datedAt date (ms ++ ns) = datedAt date ms ++ datedAt date ns := List.filter_append ms ns

theorem datedAt_newestFirst (date : Instant) (messages : List Message) :
    datedAt date (newestFirst messages) = datedAt date messages := by
  -- Messages of one date are in order as they stand, so sorting leaves them as a sublist.
  have hsame : (datedAt date messages).Pairwise fun m n => isNotOlder m n = true := by
    apply List.pairwise_of_forall_mem_list
    intro m hm n hn
    rw [isNotOlder_iff, (mem_datedAt.mp hm).2, (mem_datedAt.mp hn).2]
    exact Instant.isAfter_self date
  have hsub : (datedAt date messages).Sublist (newestFirst messages) :=
    List.sublist_mergeSort isNotOlder_trans isNotOlder_total hsame List.filter_sublist
  have hdated : (datedAt date messages).Sublist (datedAt date (newestFirst messages)) := by
    simpa [datedAt] using hsub.filter (·.header.date = date)
  have hlength := ((newestFirst_perm messages).filter (·.header.date = date)).length_eq
  exact (hdated.eq_of_length hlength.symm).symm

theorem mem_of_datedAt {ms ns : List Message} (h : ∀ date, datedAt date ms = datedAt date ns)
    {m : Message} (hm : m ∈ ms) : m ∈ ns := by
  have hdated : m ∈ datedAt m.header.date ms := mem_datedAt.mpr ⟨hm, rfl⟩
  rw [h] at hdated
  exact (mem_datedAt.mp hdated).1

theorem isNotOlder_head {m n : Message} {ms : List Message}
    (h : (m :: ms).Pairwise fun m n => isNotOlder m n = true) (hn : n ∈ m :: ms) :
    isNotOlder m n = true := by
  rcases List.mem_cons.mp hn with rfl | hn
  · exact isNotOlder_iff.mpr (Instant.isAfter_self _)
  · exact (List.pairwise_cons.mp h).1 n hn

theorem eq_of_datedAt {ms ns : List Message} (hms : ms.Pairwise fun m n => isNotOlder m n = true)
    (hns : ns.Pairwise fun m n => isNotOlder m n = true)
    (h : ∀ date, datedAt date ms = datedAt date ns) : ms = ns := by
  induction ms generalizing ns with
  | nil =>
    cases ns with
    | nil => rfl
    | cons n ns =>
      have hn := mem_of_datedAt (fun date => (h date).symm) List.mem_cons_self
      exact absurd hn List.not_mem_nil
  | cons m ms ih =>
    cases ns with
    | nil => exact absurd (mem_of_datedAt h List.mem_cons_self) List.not_mem_nil
    | cons n ns =>
      have hmn := isNotOlder_head hms (mem_of_datedAt (fun date => (h date).symm) List.mem_cons_self)
      have hnm := isNotOlder_head hns (mem_of_datedAt h List.mem_cons_self)
      -- Neither head is older than the other, so both are first among the messages of one date.
      have hdate : n.header.date = m.header.date :=
        Instant.eq_of_not_isAfter (isNotOlder_iff.mp hmn) (isNotOlder_iff.mp hnm)
      have hheads := h m.header.date
      rw [datedAt, datedAt, List.filter_cons_of_pos (by simp),
        List.filter_cons_of_pos (by simpa using hdate)] at hheads
      obtain rfl := (List.cons.inj hheads).1
      congr 1
      apply ih (List.pairwise_cons.mp hms).2 (List.pairwise_cons.mp hns).2
      intro date
      have hd := h date
      rw [datedAt, datedAt, List.filter_cons, List.filter_cons] at hd
      split at hd
      · exact (List.cons.inj hd).2
      · exact hd

theorem newestFirst_eq_iff {ms ns : List Message} :
    newestFirst ms = newestFirst ns ↔ ∀ date, datedAt date ms = datedAt date ns := by
  constructor
  · intro h date
    rw [← datedAt_newestFirst, h, datedAt_newestFirst]
  · intro h
    apply eq_of_datedAt (pairwise_newestFirst ms) (pairwise_newestFirst ns)
    intro date
    rw [datedAt_newestFirst, h, datedAt_newestFirst]

inductive Change where
  | add (message : Message)
  | sort

namespace Change

def apply (messages : List Message) : Change → List Message
  | add message => messages ++ [message]
  | sort => newestFirst messages

def added : Change → List Message
  | add message => [message]
  | sort => []

theorem datedAt_apply (date : Instant) (messages : List Message) (change : Change) :
    datedAt date (change.apply messages) = datedAt date (messages ++ change.added) := by
  cases change with
  | add message => rfl
  | sort => rw [apply, datedAt_newestFirst, added, List.append_nil]

theorem datedAt_foldl (date : Instant) (messages : List Message) (changes : List Change) :
    datedAt date (changes.foldl apply messages) =
      datedAt date (messages ++ changes.flatMap added) := by
  induction changes generalizing messages with
  | nil => rw [List.foldl_nil, List.flatMap_nil, List.append_nil]
  | cons change changes ih =>
    rw [List.foldl_cons, ih, datedAt_append, datedAt_apply, ← datedAt_append, List.flatMap_cons,
      List.append_assoc]

end Change

theorem newestFirst_foldl (messages : List Message) (changes : List Change) :
    let all := messages ++ changes.flatMap Change.added
    let sorted := newestFirst (changes.foldl Change.apply messages)
    sorted = newestFirst all ∧ sorted.Perm all ∧
      sorted.Pairwise (fun m n => n.header.date.isAfter m.header.date = false) ∧
      ∀ date, datedAt date sorted = datedAt date all := by
  intro all sorted
  have hsorted : sorted = newestFirst all :=
    newestFirst_eq_iff.mpr fun date => Change.datedAt_foldl date messages changes
  rw [hsorted]
  refine ⟨rfl, newestFirst_perm all, ?_, fun date => datedAt_newestFirst date all⟩
  exact (pairwise_newestFirst all).imp isNotOlder_iff.mp

def datedAfter (date : Instant) (messages : List Message) : List Message :=
  messages.filter (·.header.date.isAfter date)

def datedBefore (date : Instant) (messages : List Message) : List Message :=
  messages.filter fun m => date.isAfter m.header.date

theorem mem_datedAfter {date : Instant} {messages : List Message} {m : Message} :
    m ∈ datedAfter date messages ↔ m ∈ messages ∧ m.header.date.isAfter date = true :=
  List.mem_filter

theorem mem_datedBefore {date : Instant} {messages : List Message} {m : Message} :
    m ∈ datedBefore date messages ↔ m ∈ messages ∧ date.isAfter m.header.date = true :=
  List.mem_filter

theorem mem_newestFirst {m : Message} {messages : List Message} :
    m ∈ newestFirst messages ↔ m ∈ messages :=
  (newestFirst_perm messages).mem_iff

theorem datedAt_filter {date : Instant} {keep : Message → Bool} {kept : Bool}
    (messages : List Message) (h : ∀ m : Message, m.header.date = date → keep m = kept) :
    datedAt date (messages.filter keep) = if kept then datedAt date messages else [] := by
  rw [datedAt, List.filter_filter]
  cases kept with
  | true =>
    apply List.filter_congr
    intro m _
    by_cases hm : m.header.date = date <;> simp [hm, h m]
  | false =>
    apply List.filter_eq_nil_iff.mpr
    intro m _
    by_cases hm : m.header.date = date <;> simp [hm, h m]

theorem newestFirst_eq_append (date : Instant) (messages : List Message) :
    newestFirst messages = newestFirst (datedAfter date messages) ++ datedAt date messages ++
      newestFirst (datedBefore date messages) := by
  apply eq_of_datedAt (pairwise_newestFirst messages)
  · have hat : (datedAt date messages).Pairwise fun m n => isNotOlder m n = true := by
      have hsub := (pairwise_newestFirst messages).filter (·.header.date = date)
      rwa [← datedAt, datedAt_newestFirst] at hsub
    simp only [List.pairwise_append, pairwise_newestFirst, hat, true_and, List.mem_append,
      mem_newestFirst, mem_datedAfter, mem_datedBefore, mem_datedAt]
    constructor
    · rintro m ⟨-, hm⟩ n ⟨-, rfl⟩
      exact isNotOlder_iff.mpr (Instant.isAfter_asymm hm)
    · rintro m (⟨-, hm⟩ | ⟨-, rfl⟩) n ⟨-, hn⟩
      · exact isNotOlder_iff.mpr
          (Instant.not_isAfter_trans (Instant.isAfter_asymm hn) (Instant.isAfter_asymm hm))
      · exact isNotOlder_iff.mpr (Instant.isAfter_asymm hn)
  · intro d
    simp only [datedAt_append, datedAt_newestFirst]
    have hafter : datedAt d (datedAfter date messages) =
        if d.isAfter date then datedAt d messages else [] :=
      datedAt_filter messages fun m hm => by rw [hm]
    have hbefore : datedAt d (datedBefore date messages) =
        if date.isAfter d then datedAt d messages else [] :=
      datedAt_filter messages fun m hm => by rw [hm]
    have hat : datedAt d (datedAt date messages) = if decide (d = date) then datedAt d messages else [] :=
      datedAt_filter messages fun m hm => by rw [hm]
    rw [hafter, hbefore, hat]
    rcases Instant.isAfter_trichotomy d date with h | rfl | h
    · simp [h, Instant.isAfter_asymm h, Instant.ne_of_isAfter h]
    · simp [Instant.isAfter_self]
    · simp [h, Instant.isAfter_asymm h, (Instant.ne_of_isAfter h).symm]

/-- No message without a known date stands before one with a known date. -/
def EndsUnknown (messages : List Message) : Prop :=
  messages.Pairwise fun m n => m.header.hasUnknownDate = true → n.header.hasUnknownDate = true

instance (messages : List Message) : Decidable (EndsUnknown messages) :=
  inferInstanceAs (Decidable (List.Pairwise _ messages))

theorem hasUnknownDate_iff {h : Header} : h.hasUnknownDate = true ↔ h.date = Instant.epoch := by
  simp [Header.hasUnknownDate]

theorem endsUnknown_newestFirst_iff (messages : List Message) :
    newestFirst messages = newestFirst (datedAfter Instant.epoch messages) ++
        datedAt Instant.epoch messages ++ newestFirst (datedBefore Instant.epoch messages) ∧
      (EndsUnknown (newestFirst messages) ↔
        datedAt Instant.epoch messages = [] ∨ datedBefore Instant.epoch messages = []) := by
  refine ⟨newestFirst_eq_append Instant.epoch messages, ?_, ?_⟩
  · intro h
    by_contra hne
    rw [not_or] at hne
    obtain ⟨m, hm⟩ := List.exists_mem_of_ne_nil _ hne.1
    obtain ⟨n, hn⟩ := List.exists_mem_of_ne_nil _ hne.2
    rw [EndsUnknown, newestFirst_eq_append Instant.epoch messages, List.pairwise_append] at h
    have hnm := h.2.2 m (List.mem_append_right _ hm) n (mem_newestFirst.mpr hn)
    have hdate := hasUnknownDate_iff.mp (hnm (hasUnknownDate_iff.mpr (mem_datedAt.mp hm).2))
    have hbefore := (mem_datedBefore.mp hn).2
    rw [hdate, Instant.isAfter_self] at hbefore
    cases hbefore
  · intro h
    apply (pairwise_newestFirst messages).imp_of_mem
    intro m n hm hn hmn hunknown
    rw [mem_newestFirst] at hm hn
    rw [hasUnknownDate_iff] at hunknown ⊢
    have hold : Instant.epoch.isAfter n.header.date = false := by
      rcases h with h | h
      · have hmem := mem_datedAt.mpr ⟨hm, hunknown⟩
        rw [h] at hmem
        cases hmem
      · by_contra hafter
        have hmem := mem_datedBefore.mpr ⟨hn, by simpa using hafter⟩
        rw [h] at hmem
        cases hmem
    rw [isNotOlder_iff, hunknown] at hmn
    exact Instant.eq_of_not_isAfter hmn hold

theorem undated_before_dated :
    ∃ date, Instant.read? "Wed, 31 Dec 1969 23:59:59 +0000".toList = some date ∧
      ¬ EndsUnknown (newestFirst [{}, { header := { date } }]) := by
  refine ⟨⟨-1, 0⟩, by decide +kernel, ?_⟩
  have hsorted : newestFirst [{}, { header := { date := ⟨-1, 0⟩ } }] =
      [{}, { header := { date := ⟨-1, 0⟩ } }] :=
    List.mergeSort_of_pairwise (by decide)
  rw [hsorted]
  decide

end MimeMail.Message

namespace MimeMail.Session

open Message (Change newestFirst datedAt)

def changes (s : Session) : Step → List Change
  | .store => [.add s.current]
  | .sort => [.sort]
  | _ => []

theorem mailbox_of_map {α : Type} {s s' : Session} {answer : Answer} {result : Except MailError α}
    {next : α → Session × Answer} (hnext : ∀ a, (next a).1.mailbox = s.mailbox)
    (h : result.map next = .ok (s', answer)) : s'.mailbox = s.mailbox := by
  cases result with
  | error e => cases h
  | ok a =>
    have ha : next a = (s', answer) := Except.ok.inj h
    rw [← hnext a, ha]

theorem mailbox_step [Charset.Library] {s s' : Session} {x : Step} {answer : Answer}
    (h : s.step x = .ok (s', answer)) :
    s'.mailbox = (s.changes x).foldl Change.apply s.mailbox := by
  cases x with
  | read | readSent | renew => exact mailbox_of_map (fun _ => rfl) h
  | setUid | setFolder | setFlags | decode | append | store | sort =>
    cases h
    rfl

def after [Charset.Library] (s : Session) : List Step → Session
  | [] => s
  | x :: steps =>
    match s.step x with
    | .ok (s', _) => after s' steps
    | .error _ => after s steps

def stored [Charset.Library] (s : Session) : List Step → List Message
  | [] => []
  | x :: steps =>
    match s.step x with
    | .ok (s', _) => (s.changes x).flatMap Change.added ++ stored s' steps
    | .error _ => stored s steps

theorem datedAt_mailbox [Charset.Library] (date : Instant) (s : Session) (steps : List Step) :
    datedAt date (s.after steps).mailbox = datedAt date (s.mailbox ++ s.stored steps) := by
  induction steps generalizing s with
  | nil => rw [after, stored, List.append_nil]
  | cons x steps ih =>
    rw [after, stored]
    split
    · next s' answer h =>
      rw [ih, Message.datedAt_append, mailbox_step h, Change.datedAt_foldl, ← Message.datedAt_append,
        List.append_assoc]
    · exact ih s

theorem newestFirst_mailbox [Charset.Library] (s : Session) (steps : List Step) :
    newestFirst (s.after steps).mailbox = newestFirst (s.mailbox ++ s.stored steps) :=
  Message.newestFirst_eq_iff.mpr fun date => datedAt_mailbox date s steps

end MimeMail.Session
