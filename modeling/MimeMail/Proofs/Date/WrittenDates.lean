import MimeMail.Date.Read
import MimeMail.Proofs.Date.Forms

namespace MimeMail

namespace Instant

theorem dropWeekday_of_isDigit {t : Text} (h : ∀ c ∈ t.head?, c.isDigit = true) :
    dropWeekday t = t := by
  cases t with
  | nil => rfl
  | cons c t =>
    have hne {d : Char} (hd : d.isDigit = false) : d ≠ c := by
      rintro rfl
      exact absurd (h d rfl) (by simp [hd])
    have hm : 'M' ≠ c := hne rfl
    have ht : 'T' ≠ c := hne rfl
    have hw : 'W' ≠ c := hne rfl
    have hf : 'F' ≠ c := hne rfl
    have hs : 'S' ≠ c := hne rfl
    simp [dropWeekday, Date.weekdayNames, dropStart?, hm, ht, hw, hf, hs]

theorem dropComment_of_ne {t : Text} (h : ∀ c ∈ t.getLast?, c ≠ ')') : dropComment t = t := by
  unfold dropComment
  split
  · next r hr =>
    have hlast : t.getLast? = some ')' := by rw [← List.head?_reverse, hr, List.head?_cons]
    exact absurd rfl (h ')' hlast)
  · rfl

theorem dropComment_append {t comment : Text} (hc : '(' ∉ comment)
    (ht : ∀ c ∈ t.getLast?, Text.isBlank c = false) :
    dropComment (t ++ (" (".toList ++ comment ++ ")".toList)) = t := by
  have hr : (t ++ (" (".toList ++ comment ++ ")".toList)).reverse =
      ')' :: (comment.reverse ++ '(' :: ' ' :: t.reverse) := by simp
  have hopen : ∀ c ∈ comment.reverse, (c != '(') = true := by
    intro c hmem
    rw [bne_iff_ne]
    rintro rfl
    exact hc (List.mem_reverse.mp hmem)
  have hdrop : (comment.reverse ++ '(' :: ' ' :: t.reverse).dropWhile (· != '(') =
      '(' :: ' ' :: t.reverse := by
    rw [List.dropWhile_append_of_pos hopen]
    rfl
  have hend : Text.trimEnd (' ' :: t.reverse).reverse = t := by
    rw [List.reverse_cons, List.reverse_reverse, Text.trimEnd_eq_rdropWhile,
      Text.rdropWhile_append_of_all (by simp [Text.isBlank]), Text.rdropWhile_eq_self ht]
  simp only [dropComment, hr, hdrop, hend]

theorem getLast?_comment (t comment : Text) :
    (t ++ (" (".toList ++ comment ++ ")".toList)).getLast? = some ')' := by
  rw [← List.append_assoc]
  exact List.getLast?_concat

theorem ofZoned?_eq_none {t : Text} (h : ∀ c ∈ t.getLast?, Digits.isDigit c = false) :
    ofZoned? t = none := by
  have hzone : ∀ items ∈ Layout.zoned, items.getLast? = some .zone := by decide
  apply List.findSome?_eq_none_iff.mpr
  intro items hitems
  obtain ⟨front, rfl⟩ := List.getLast?_eq_some_iff.mp (hzone items hitems)
  cases hread : Layout.readItems? (front ++ [.zone]) {} t with
  | none => rw [Layout.read?, hread, Option.bind_none]
  | some y =>
    obtain ⟨c, hc, hd⟩ := Layout.exists_getLast?_of_read hread
    rw [h c hc] at hd
    cases hd

end Instant

namespace WrittenDate

variable (x : WrittenDate)

def weekdayText : Text :=
  match x.weekday with
  | some i => (Date.weekdayNames.getD i "").toList ++ ", ".toList
  | none => []

def commentText : Text :=
  match x.comment with
  | some c => " (".toList ++ c ++ ")".toList
  | none => []

def text : Text := x.weekdayText ++ (x.dated x.zone.text ++ x.commentText)

def instant : Instant := x.instantAt x.zone.seconds

def front : Text :=
  x.day ++ x.form.mark :: (x.month ++ x.form.mark :: (x.form.yearText x.date.year ++
    ' ' :: x.form.clockText x.clock))

theorem dated_eq (zone : Text) : x.dated zone = x.front ++ ' ' :: zone := by simp [dated, front]

theorem isDigit_head_dated (r : Text) :
    ∀ c ∈ (x.dated x.zone.text ++ r).head?, c.isDigit = true := by
  have hday : x.day ≠ [] ∧ ∀ c ∈ x.day, c.isDigit = true := by
    rcases x.day_eq with h | h
    · rw [h]
      exact ⟨Digits.ofNat_ne_nil _, Digits.isDigit_ofNat _⟩
    · rw [h]
      exact ⟨Digits.padded_ne_nil 2 _, Digits.isDigit_padded 2 _⟩
  intro c hc
  rw [dated, List.append_assoc, List.head?_append_of_ne_nil _ hday.1] at hc
  exact hday.2 c (List.mem_of_head? hc)

theorem last_dated :
    ∀ c ∈ (x.dated x.zone.text).getLast?, Text.isBlank c = false ∧ c ≠ ')' := by
  have hlast : (x.dated x.zone.text).getLast? = x.zone.text.getLast? := by
    rw [dated_eq, List.append_cons,
      List.getLast?_append_of_ne_nil _ (ZoneName.text_ne_nil x.isKnown_zone)]
  rw [hlast]
  exact ZoneName.last_text x.isKnown_zone

theorem isTrimmed_commented : Text.IsTrimmed (x.dated x.zone.text ++ x.commentText) := by
  apply Text.isTrimmed_of_edges
  · exact fun c hc => Digits.isBlank_of_isDigit (x.isDigit_head_dated _ c hc)
  · unfold commentText
    split
    · rw [Instant.getLast?_comment]
      rintro c ⟨⟩
      rfl
    · rw [List.append_nil]
      exact fun c hc => (x.last_dated c hc).1

theorem commented_ne_nil : x.dated x.zone.text ++ x.commentText ≠ [] := by
  rw [dated_eq]
  simp

theorem isTrimmed_text : Text.IsTrimmed x.text := by
  unfold text weekdayText
  split
  · next i hi =>
    rw [List.append_assoc]
    exact Instant.isTrimmed_weekday i.isLt x.commented_ne_nil x.isTrimmed_commented
  · exact x.isTrimmed_commented

theorem dropWeekday_text : Instant.dropWeekday x.text = x.dated x.zone.text ++ x.commentText := by
  unfold text weekdayText
  split
  · next i hi =>
    rw [List.append_assoc]
    exact (Instant.dropWeekday_append i.isLt _).trans x.isTrimmed_commented
  · exact Instant.dropWeekday_of_isDigit (x.isDigit_head_dated _)

theorem dropComment_dated :
    Instant.dropComment (x.dated x.zone.text ++ x.commentText) = x.dated x.zone.text := by
  unfold commentText
  split
  · next c hc =>
    exact Instant.dropComment_append (x.comment_eq c hc).1 fun d hd => (x.last_dated d hd).1
  · rw [List.append_nil]
    exact Instant.dropComment_of_ne fun c hc => (x.last_dated c hc).2

theorem ofZoned?_commented :
    (Instant.ofZoned? (x.dated x.zone.text ++ x.commentText) <|>
      Instant.ofZoned? (x.dated x.zone.text)) = Instant.ofZoned? (x.dated x.zone.text) := by
  unfold commentText
  split
  · next c hc =>
    have hlast : ∀ d ∈ (x.dated x.zone.text ++ (" (".toList ++ c ++ ")".toList)).getLast?,
        Digits.isDigit d = false := by
      rw [Instant.getLast?_comment]
      rintro d ⟨⟩
      rfl
    rw [Instant.ofZoned?_eq_none hlast]
    rfl
  · rw [List.append_nil]
    cases Instant.ofZoned? (x.dated x.zone.text) <;> rfl

theorem ofZoned?_expanded :
    (Instant.ofZoned? (x.dated x.zone.text) <|>
      Instant.ofZoned? (Zone.expand (x.dated x.zone.text))) = some x.instant := by
  have hknown := x.isKnown_zone
  rw [instant]
  cases hz : x.zone with
  | offset behind hours minutes =>
    rw [hz] at hknown
    rw [ZoneName.text, ofZoned?_dated x hknown.1 hknown.2]
    rfl
  | letters name hours =>
    rw [hz] at hknown
    obtain ⟨hne, hletters⟩ := ZoneName.letters_of_isKnown hknown
    have hlast : ∀ c ∈ (x.dated name.toList).getLast?, Digits.isDigit c = false := by
      rw [dated_eq, List.append_cons, List.getLast?_append_of_ne_nil _ hne]
      exact fun c hc => (hletters c (List.mem_of_getLast? hc)).2.2
    rw [ZoneName.text, Instant.ofZoned?_eq_none hlast, dated_eq, Zone.expand_letters hknown,
      ← dated_eq, ofZoned?_dated x (Zone.letterHours_bounds _ hknown) (by decide),
      Zone.offsetSeconds_letters]
    rfl

theorem read?_text : Instant.read? x.text = some x.instant := by
  have hne : x.text.isEmpty = false := by
    rw [List.isEmpty_eq_false_iff, text]
    exact List.append_ne_nil_of_right_ne_nil _ x.commented_ne_nil
  have hzoned := x.ofZoned?_commented
  have hexpanded := x.ofZoned?_expanded
  rw [Instant.read?, x.isTrimmed_text, hne, if_neg (by simp)]
  dsimp only
  rw [x.dropWeekday_text, x.dropComment_dated]
  -- One of the first three readings fits, so the looser ones behind them are not tried.
  simp only [Option.orElse_eq_orElse, Option.orElse_eq_or] at hzoned hexpanded ⊢
  rw [← Option.or_assoc, hzoned, ← Option.or_assoc, hexpanded, Option.some_or]

theorem read?_text_leapDay :
    Instant.read? "Mon, 29 fEB 2024 23:59:59 EST (local time)".toList = some ⟨1709269199, 0⟩ := by
  have hread := read?_text
    { form := .full, date := ⟨2024, 2, 29⟩, clock := ⟨23, 59, 59⟩, zone := .letters "EST" (-5)
      day := "29".toList, month := "fEB".toList, weekday := some 0
      comment := some "local time".toList
      isValid_date := by decide
      hasYear := ⟨by decide, by decide⟩
      hour_le := by decide
      minute_le := by decide
      second_le := by decide
      isKnown_zone := by decide +kernel
      day_eq := by decide +kernel
      month_eq := by decide +kernel
      comment_eq := by
        rintro c ⟨⟩
        decide +kernel }
  rwa [instant, instantAt, ← Date.dayNumber_eq_elapsed (by decide) (by decide)] at hread

end WrittenDate

end MimeMail
