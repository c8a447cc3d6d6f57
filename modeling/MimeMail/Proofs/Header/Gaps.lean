import MimeMail.Proofs.Header.Words

/-!
Header values as rows of words and literal text. Blanks between two words are no part of the text,
and decoding leaves them out before it knows whether a second word follows: it gives the text of the
row exactly if no blanks stand between a word and an `=?` that starts none.
-/

namespace MimeMail.EncodedWord

inductive Token where
  | word (source shown : Text)
  | literal (t : Text)
  deriving DecidableEq

namespace Token

def source : Token → Text
  | word source _ => source
  | literal t => t

def wordFirst : List Token → Bool
  | word _ _ :: _ => true
  | _ => false

end Token

/-- The text of a row of tokens. Blank literal text after a word is left out if `gapBefore` holds of
the tokens that follow it. -/
def joined (gapBefore : List Token → Bool) (afterWord : Bool) : List Token → Text
  | [] => []
  | .word _ shown :: ts => shown ++ joined gapBefore true ts
  | .literal t :: ts =>
    (if afterWord && t.all Text.isBlank && gapBefore ts then [] else t) ++
      joined gapBefore false ts

theorem joined_sublist (afterWord : Bool) (ts : List Token) :
    (joined (!·.isEmpty) afterWord ts).Sublist (joined Token.wordFirst afterWord ts) := by
  induction ts generalizing afterWord with
  | nil => exact .slnil
  | cons token ts ih =>
    cases token with
    | word source shown => exact (List.Sublist.refl shown).append (ih true)
    | literal t =>
      refine List.Sublist.append ?_ (ih false)
      cases ts with
      | nil => exact .refl _
      | cons next ts =>
        cases next with
        | word source shown => exact .refl _
        | literal next =>
          simp only [Token.wordFirst, Bool.and_false, Bool.false_eq_true, if_false]
          split
          · exact List.nil_sublist t
          · exact .refl t

structure KeepsGaps (afterWord : Bool) (ts : List Token) : Prop where
  first : afterWord = true → ∀ gap next, [.literal gap, .literal next] <+: ts →
    gap.all Text.isBlank = true → gap = []
  rest : ∀ source shown gap next, [.word source shown, .literal gap, .literal next] <:+: ts →
    gap.all Text.isBlank = true → gap = []

theorem keepsGaps_nil (afterWord : Bool) : KeepsGaps afterWord [] := ⟨by simp, by simp⟩

theorem keepsGaps_word {afterWord : Bool} {source shown : Text} {ts : List Token} :
    KeepsGaps afterWord (.word source shown :: ts) ↔ KeepsGaps true ts := by
  constructor
  · rintro ⟨-, hr⟩
    refine ⟨fun _ gap next hp => hr source shown gap next ?_, fun _ _ _ _ hi => ?_⟩
    · exact (List.cons_prefix_cons.mpr ⟨rfl, hp⟩).isInfix
    · exact hr _ _ _ _ (List.infix_cons hi)
  · rintro ⟨hf, hr⟩
    refine ⟨fun _ gap next hp => ?_, fun _ _ gap next hi => ?_⟩
    · cases (List.cons_prefix_cons.mp hp).1
    · rcases List.infix_cons_iff.mp hi with hp | hi
      · exact hf rfl gap next (List.cons_prefix_cons.mp hp).2
      · exact hr _ _ gap next hi

theorem keepsGaps_literal {afterWord : Bool} {t : Text} {ts : List Token} :
    KeepsGaps afterWord (.literal t :: ts) ↔
      (afterWord = true → ∀ next, [.literal next] <+: ts → t.all Text.isBlank = true → t = []) ∧
        KeepsGaps false ts := by
  constructor
  · rintro ⟨hf, hr⟩
    refine ⟨fun ha next hp => hf ha t next (List.cons_prefix_cons.mpr ⟨rfl, hp⟩), ?_, ?_⟩
    · rintro ⟨⟩
    · exact fun _ _ _ _ hi => hr _ _ _ _ (List.infix_cons hi)
  · rintro ⟨ht, -, hr⟩
    refine ⟨fun ha gap next hp => ?_, fun _ _ _ _ hi => ?_⟩
    · obtain ⟨hg, hnext⟩ := List.cons_prefix_cons.mp hp
      cases hg
      exact ht ha next hnext
    · rcases List.infix_cons_iff.mp hi with hp | hi
      · cases (List.cons_prefix_cons.mp hp).1
      · exact hr _ _ _ _ hi

theorem leftOut_append_eq_iff {b : Bool} {t r s : Text} (h : r.length ≤ s.length) :
    (if b then [] else t) ++ r = t ++ s ↔ (b = true → t = []) ∧ r = s := by
  cases b with
  | false => simp
  | true =>
    rw [if_pos rfl, List.nil_append]
    constructor
    · intro he
      have hlen := congrArg List.length he
      rw [List.length_append] at hlen
      obtain rfl : t = [] := List.length_eq_zero_iff.mp (by omega)
      exact ⟨fun _ => rfl, he⟩
    · rintro ⟨ht, rfl⟩
      rw [ht rfl, List.nil_append]

theorem joined_eq_iff (afterWord : Bool) (ts : List Token) :
    joined (!·.isEmpty) afterWord ts = joined Token.wordFirst afterWord ts ↔
      KeepsGaps afterWord ts := by
  induction ts generalizing afterWord with
  | nil => exact iff_of_true rfl (keepsGaps_nil afterWord)
  | cons token ts ih =>
    cases token with
    | word source shown =>
      rw [keepsGaps_word, ← ih true, joined, joined]
      exact List.append_right_inj shown
    | literal t =>
      rw [keepsGaps_literal, ← ih false, joined, joined]
      -- The two rules differ on blanks before literal text only.
      cases ts with
      | nil => simp [joined, Token.wordFirst]
      | cons next ts =>
        cases next with
        | word source shown =>
          have hword (next : Text) : ¬ [Token.literal next] <+: .word source shown :: ts := by
            intro hp
            cases (List.cons_prefix_cons.mp hp).1
          simp [hword, Token.wordFirst]
        | literal next =>
          have hnext : [Token.literal next] <+: .literal next :: ts := ⟨ts, rfl⟩
          have hlost := leftOut_append_eq_iff (b := afterWord && t.all Text.isBlank) (t := t)
            (joined_sublist false (.literal next :: ts)).length_le
          simp only [Token.wordFirst, List.isEmpty_cons, Bool.not_false, Bool.and_true,
            Bool.and_false, Bool.false_eq_true, if_false]
          rw [hlost, Bool.and_eq_true_iff]
          refine and_congr_left fun _ => ⟨fun h ha _ _ ht => h ⟨ha, ht⟩, fun h ⟨ha, ht⟩ => ?_⟩
          exact h ha next hnext ht

section

variable [Charset.Library]

def tokens (t : Text) : List Token :=
  match _h : Text.cutAt ['=', '?'] t with
  | none => [.literal t]
  | some (before, rest) =>
    match _hr : read? rest with
    | some (shown, more) =>
      .literal before :: .word ('=' :: '?' :: rest.take (rest.length - more.length)) shown ::
        tokens more
    | none => .literal before :: .literal ['=', '?'] :: tokens rest
termination_by t.length
decreasing_by
  · have := Text.length_of_cutAt _h
    have := length_of_read _hr
    simp at *
    omega
  · have := Text.length_of_cutAt _h
    simp at *
    omega

def shown (t : Text) : Text := joined Token.wordFirst false (tokens t)

theorem suffix_of_read {t word rest : Text} (h : read? t = some (word, rest)) : rest <:+ t := by
  simp only [read?] at h
  split at h
  · cases h
  · next h1 =>
    split at h
    · cases h
    · split at h
      · cases h
      · next h2 =>
        split at h
        · cases h
        · next h3 =>
          obtain ⟨_, -, hr⟩ := Option.map_eq_some_iff.mp h
          cases hr
          rw [Text.cutAt_eq_some h1, Text.cutAt_eq_some h2, Text.cutAt_eq_some h3]
          simp only [← List.append_assoc]
          exact List.suffix_append _ _

theorem flatMap_source_tokens (t : Text) : (tokens t).flatMap Token.source = t := by
  fun_induction tokens t with
  | case1 t h => simp [Token.source]
  | case2 t before rest h shown more hr ih =>
    have hs := List.suffix_iff_eq_append.mp (suffix_of_read hr)
    rw [List.flatMap_cons, List.flatMap_cons, ih, Text.cutAt_eq_some h]
    simp [Token.source, hs]
  | case3 t before rest h hr ih =>
    rw [List.flatMap_cons, List.flatMap_cons, ih, Text.cutAt_eq_some h]
    simp [Token.source]

theorem decodeFrom_eq_joined (afterWord : Bool) (t : Text) :
    decodeFrom afterWord t = joined (!·.isEmpty) afterWord (tokens t) := by
  fun_induction tokens t generalizing afterWord with
  | case1 t h =>
    rw [decodeFrom_plain afterWord (Text.cutAt_eq_none_iff.mp h)]
    simp [joined]
  | case2 t before rest h shown more hr ih =>
    rw [decodeFrom_of_cutAt afterWord h, hr, joined, joined, ← ih]
    simp
  | case3 t before rest h hr ih =>
    rw [decodeFrom_of_cutAt afterWord h, hr, joined, joined, ← ih]
    simp [Text.isBlank]

/-- Decoding gives the words and the literal text of a value in their order, and leaves out blanks
after a word whenever an `=?` follows. So it gives the text of the value exactly if each such `=?`
starts a word. -/
theorem decode_tokens (t : Text) :
    (tokens t).flatMap Token.source = t ∧ decode t = joined (!·.isEmpty) false (tokens t) ∧
      (decode t = shown t ↔
        ∀ source shown gap next, [.word source shown, .literal gap, .literal next] <:+: tokens t →
          gap.all Text.isBlank = true → gap = []) := by
  have hdecode : decode t = joined (!·.isEmpty) false (tokens t) := decodeFrom_eq_joined false t
  refine ⟨flatMap_source_tokens t, hdecode, ?_⟩
  rw [hdecode, shown, joined_eq_iff]
  exact ⟨KeepsGaps.rest, fun h => ⟨by simp, h⟩⟩

end

theorem blank_lost_after_word :
    decode "=?UTF-8?Q?a?= =?x".toList = "a=?x".toList ∧
      shown "=?UTF-8?Q?a?= =?x".toList = "a =?x".toList := by
  constructor <;> decide +kernel

end MimeMail.EncodedWord
