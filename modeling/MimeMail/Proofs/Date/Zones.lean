import MimeMail.Date.Zone
import MimeMail.Proofs.Text.Digits

namespace MimeMail

namespace Zone

def offsetText (behind : Bool) (hours minutes : ℕ) : Text :=
  (if behind then '-' else '+') :: (Digits.padded 2 hours ++ Digits.padded 2 minutes)

def offsetSeconds (behind : Bool) (hours minutes : ℕ) : ℤ :=
  if behind then -(hours * 3600 + minutes * 60) else hours * 3600 + minutes * 60

def letterHours : List (String × ℤ) := [
  ("EST", -5), ("EDT", -4), ("CST", -6), ("CDT", -5), ("MST", -7), ("MDT", -6), ("PST", -8),
  ("PDT", -7), ("GMT", 0), ("UTC", 0), ("UT", 0), ("CEST", 2), ("CET", 1), ("JST", 9)]

theorem abbreviations_eq : abbreviations = letterHours.map fun (name, hours) =>
    (name, String.ofList (offsetText (decide (hours < 0)) hours.natAbs 0)) := by
  decide +kernel

theorem sign?_offset (mathMinus behind : Bool) (r : Text) :
    sign? mathMinus ((if behind then '-' else '+') :: r) = some (behind, r) := by
  cases behind <;> rfl

theorem read?_offsetText (mathMinus : Bool) (dropMark? : Text → Option Text) (behind : Bool)
    {hours minutes : ℕ} (hh : hours ≤ 23) (hm : minutes ≤ 59)
    (hmark : dropMark? (Digits.padded 2 minutes) = some (Digits.padded 2 minutes)) :
    Zone.read? mathMinus dropMark? (offsetText behind hours minutes) =
      some (offsetSeconds behind hours minutes, []) := by
  have htwo {n : ℕ} (r : Text) (hn : n < 100) :
      Digits.read? 2 2 (Digits.padded 2 n ++ r) = some (n, r) :=
    Digits.read?_padded r le_rfl (by decide) hn
  have hhours := htwo (Digits.padded 2 minutes) (show hours < 100 by omega)
  have hminutes := htwo [] (show minutes < 100 by omega)
  have hparts : ofParts? behind hours minutes = some (offsetSeconds behind hours minutes) := by
    have hlt : (decide (hours < 24) && decide (minutes < 60)) = true := by
      rw [decide_eq_true (by omega), decide_eq_true (by omega), Bool.and_true]
    have hsum : ((hours : ℤ) * 60 + minutes) * 60 = hours * 3600 + minutes * 60 := by ring
    rw [ofParts?, if_pos hlt, offsetSeconds]
    push_cast
    rw [hsum]
  rw [List.append_nil] at hminutes
  simp only [Zone.read?, offsetText, sign?_offset, Option.bind_eq_bind, Option.bind_some, hhours, hmark,
    hminutes, hparts]

theorem sign?_suffix {mathMinus behind : Bool} {t rest : Text}
    (h : sign? mathMinus t = some (behind, rest)) : rest <:+ t := by
  unfold sign? at h
  split at h
  · cases h
    exact List.suffix_cons _ _
  · cases h
    exact List.suffix_cons _ _
  · obtain ⟨-, h⟩ := Option.ite_none_right_eq_some.mp h
    cases h
    exact List.suffix_cons _ _
  · cases h

theorem exists_of_read {mathMinus : Bool} {dropMark? : Text → Option Text} {t rest : Text}
    {offset : ℤ} (hmark : ∀ t, ∀ u ∈ dropMark? t, u <:+ t)
    (h : Zone.read? mathMinus dropMark? t = some (offset, rest)) :
    ∃ s c, t = s ++ c :: rest ∧ Digits.isDigit c = true := by
  obtain ⟨⟨behind, t₁⟩, hsign, h⟩ := Option.bind_eq_some_iff.mp h
  obtain ⟨⟨hours, t₂⟩, hhours, h⟩ := Option.bind_eq_some_iff.mp h
  obtain ⟨t₃, hdrop, h⟩ := Option.bind_eq_some_iff.mp h
  obtain ⟨⟨minutes, t₄⟩, hminutes, h⟩ := Option.bind_eq_some_iff.mp h
  obtain ⟨_, -, h⟩ := Option.bind_eq_some_iff.mp h
  cases h
  obtain ⟨ds, rfl, hdigit, hl⟩ := Digits.exists_of_read hminutes
  obtain ⟨s, rfl⟩ := (hmark _ _ hdrop).trans ((Digits.read?_suffix hhours).trans (sign?_suffix hsign))
  have hne : ds ≠ [] := List.ne_nil_of_length_pos (by omega)
  refine ⟨s ++ ds.dropLast, ds.getLast hne, ?_, hdigit _ (List.getLast_mem hne)⟩
  rw [List.append_assoc, List.append_cons ds.dropLast, List.dropLast_append_getLast hne]

theorem expand_abbreviation {name offset : String} (h : (name, offset) ∈ abbreviations) (r : Text) :
    expand (r ++ ' ' :: name.toList) = r ++ ' ' :: offset.toList := by
  have hr : (r ++ ' ' :: name.toList).reverse = name.toList.reverse ++ ' ' :: r.reverse := by simp
  rw [expand, hr]
  simp only [abbreviations, List.mem_cons, Prod.mk.injEq, List.not_mem_nil, or_false] at h
  rcases h with ⟨rfl, rfl⟩ | ⟨rfl, rfl⟩ | ⟨rfl, rfl⟩ | ⟨rfl, rfl⟩ | ⟨rfl, rfl⟩ | ⟨rfl, rfl⟩ |
    ⟨rfl, rfl⟩ | ⟨rfl, rfl⟩ | ⟨rfl, rfl⟩ | ⟨rfl, rfl⟩ | ⟨rfl, rfl⟩ | ⟨rfl, rfl⟩ | ⟨rfl, rfl⟩ |
    ⟨rfl, rfl⟩ <;>
  · change r.reverse.reverse ++ _ = _
    rw [List.reverse_reverse]

theorem letterHours_bounds : ∀ entry ∈ letterHours, entry.2.natAbs ≤ 23 := by decide

theorem expand_letters {name : String} {hours : ℤ} (h : (name, hours) ∈ letterHours) (r : Text) :
    expand (r ++ ' ' :: name.toList) = r ++ ' ' :: offsetText (decide (hours < 0)) hours.natAbs 0 := by
  have hentry : (name, String.ofList (offsetText (decide (hours < 0)) hours.natAbs 0)) ∈
      abbreviations := by
    rw [abbreviations_eq]
    exact List.mem_map_of_mem h
  rw [expand_abbreviation hentry, String.toList_ofList]

theorem offsetSeconds_letters (hours : ℤ) :
    offsetSeconds (decide (hours < 0)) hours.natAbs 0 = hours * 3600 := by
  unfold offsetSeconds
  split
  · next h =>
    rw [decide_eq_true_eq] at h
    omega
  · next h =>
    rw [decide_eq_true_eq] at h
    omega

end Zone

inductive ZoneName where
  | offset (behind : Bool) (hours minutes : ℕ)
  | letters (name : String) (hours : ℤ)
  deriving DecidableEq

namespace ZoneName

def text : ZoneName → Text
  | offset behind hours minutes => Zone.offsetText behind hours minutes
  | letters name _ => name.toList

def seconds : ZoneName → ℤ
  | offset behind hours minutes => Zone.offsetSeconds behind hours minutes
  | letters _ hours => hours * 3600

def IsKnown : ZoneName → Prop
  | offset _ hours minutes => hours ≤ 23 ∧ minutes ≤ 59
  | letters name hours => (name, hours) ∈ Zone.letterHours

instance : DecidablePred IsKnown
  | offset _ hours minutes => inferInstanceAs (Decidable (hours ≤ 23 ∧ minutes ≤ 59))
  | letters name hours => inferInstanceAs (Decidable ((name, hours) ∈ Zone.letterHours))

theorem letters_of_isKnown {name : String} {hours : ℤ} (h : (letters name hours).IsKnown) :
    name.toList ≠ [] ∧
      ∀ c ∈ name.toList, Text.isBlank c = false ∧ c ≠ ')' ∧ Digits.isDigit c = false := by
  have hnames : ∀ entry ∈ Zone.letterHours, (!entry.1.toList.isEmpty &&
      entry.1.toList.all fun c => !Text.isBlank c && c != ')' && !Digits.isDigit c) = true := by
    decide +kernel
  simpa [and_assoc] using hnames _ h

theorem text_ne_nil {z : ZoneName} (h : z.IsKnown) : z.text ≠ [] := by
  cases z with
  | offset behind hours minutes => exact List.cons_ne_nil _ _
  | letters name hours => exact (letters_of_isKnown h).1

theorem last_text {z : ZoneName} (h : z.IsKnown) :
    ∀ c ∈ z.text.getLast?, Text.isBlank c = false ∧ c ≠ ')' := by
  intro c hc
  cases z with
  | offset behind hours minutes =>
    rw [text, Zone.offsetText, ← List.cons_append,
      List.getLast?_append_of_ne_nil _ (Digits.padded_ne_nil 2 minutes)] at hc
    have hd := Digits.isDigit_padded 2 minutes c (List.mem_of_getLast? hc)
    refine ⟨Digits.isBlank_of_isDigit hd, ?_⟩
    rintro rfl
    exact absurd hd (by decide)
  | letters name hours =>
    have hletter := (letters_of_isKnown h).2 c (List.mem_of_getLast? hc)
    exact ⟨hletter.1, hletter.2.1⟩

end ZoneName

end MimeMail
