import MimeMail.Date.Read
import MimeMail.Proofs.Date.Calendar
import MimeMail.Proofs.Date.Layouts

namespace MimeMail.Instant

def wholeSecond (x : Instant) : Instant :=
  if x.nanos < 1000000000 then ⟨x.secs, 0⟩
  else if x.secs % 60 = 59 then ⟨x.secs, 1000000000⟩
  else ⟨x.secs + 1, 0⟩

/-- An instant in a year of the calendar, by at most one second past its count of seconds. -/
structure IsRepresentable (x : Instant) : Prop where
  nanos : x.nanos < 2000000000
  year : isYear x.date.year = true

instance (x : Instant) : Decidable x.IsRepresentable :=
  decidable_of_iff (x.nanos < 2000000000 ∧ isYear x.date.year = true)
    ⟨fun h => ⟨h.1, h.2⟩, fun h => ⟨h.nanos, h.year⟩⟩

theorem clock_bounds {x : Instant} (h : x.nanos < 2000000000) :
    x.clock.hour < 24 ∧ x.clock.minute < 60 ∧ x.clock.second ≤ 60 := by
  simp only [clock, secondsPerDay]
  omega

theorem date_bounds (x : Instant) :
    1 ≤ x.date.month ∧ x.date.month ≤ 12 ∧ 1 ≤ x.date.day ∧ x.date.day ≤ 31 :=
  Date.bounds_of_isValid (Date.isValid_ofDayNumber _)

theorem secs_wholeSecond {x : Instant} (h : x.nanos < 2000000000) :
    x.wholeSecond.secs = x.secs / secondsPerDay * secondsPerDay +
      ((x.clock.hour * 60 + x.clock.minute) * 60 + min x.clock.second 59 : ℕ) ∧
    x.wholeSecond.secs / secondsPerDay = x.secs / secondsPerDay ∧
    x.wholeSecond.nanos = if x.clock.second == 60 then 1000000000 else 0 := by
  have hmod : x.secs % 60 = ((x.secs % 86400).toNat % 60 : ℕ) := by omega
  have hsecs : x.secs = x.secs / 86400 * 86400 + (x.secs % 86400).toNat := by omega
  have hlt : (x.secs % 86400).toNat < 86400 := by omega
  simp only [clock, secondsPerDay, beq_iff_eq]
  rw [wholeSecond, hmod]
  generalize (x.secs % 86400).toNat = s at *
  by_cases hn : x.nanos < 1000000000
  · have hz : x.nanos / 1000000000 = 0 := by omega
    rw [if_pos hn, hz]
    dsimp only
    rw [if_neg (by omega)]
    omega
  · have hz : x.nanos / 1000000000 = 1 := by omega
    rw [if_neg hn, hz]
    by_cases hs : ((s % 60 : ℕ) : ℤ) = 59
    · rw [if_pos hs]
      dsimp only
      rw [if_pos (by omega)]
      omega
    · rw [if_neg hs]
      dsimp only
      rw [if_neg (by omega)]
      omega

theorem ofCivil?_clock {x : Instant} (h : x.IsRepresentable) :
    ofCivil? x.date x.clock 0 = some x.wholeSecond := by
  have hvalid : x.date.isValid = true := Date.isValid_ofDayNumber _
  have hclock : x.clock.isValid = true := by
    simp only [Clock.isValid, Bool.and_eq_true, decide_eq_true_eq]
    exact ⟨⟨(clock_bounds h.nanos).1, (clock_bounds h.nanos).2.1⟩, (clock_bounds h.nanos).2.2⟩
  have hday : x.date.dayNumber = x.secs / secondsPerDay := Date.dayNumber_ofDayNumber _
  obtain ⟨hsecs, hsame, hnanos⟩ := secs_wholeSecond h.nanos
  have hyear : isYear (Date.ofDayNumber (x.wholeSecond.secs / secondsPerDay)).year = true := by
    rw [hsame]
    exact h.year
  rw [ofCivil?, hvalid, h.year, hclock, hday]
  simp only [Bool.and_self, if_true, sub_zero, ← hsecs, hyear, ← hnanos]

def datedText (x : Instant) : Text :=
  Digits.padded 2 x.date.day ++ ' ' :: ((Date.monthNames.getD (x.date.month - 1) "").toList ++
    ' ' :: (yearText x.date.year ++ ' ' :: (Digits.padded 2 x.clock.hour ++
    ':' :: (Digits.padded 2 x.clock.minute ++ ':' :: (Digits.padded 2 x.clock.second ++
    ' ' :: "+0000".toList)))))

theorem headerText_eq (x : Instant) :
    x.headerText = (Date.weekdayNames.getD (Date.weekday (x.secs / secondsPerDay)) "").toList ++
      ',' :: ' ' :: x.datedText := by
  simp [headerText, datedText]

theorem weekday_lt (n : ℤ) : Date.weekday n < 7 := by
  unfold Date.weekday
  omega

theorem dropWeekday_append {i : ℕ} (hi : i < 7) (r : Text) :
    dropWeekday ((Date.weekdayNames.getD i "").toList ++ ',' :: ' ' :: r) = Text.trim r := by
  have ht : Text.trim (' ' :: r) = Text.trim r := Text.trim_cons_blank rfl
  rw [← ht]
  interval_cases i <;> rfl

theorem isBlank_of_mem_padded (width n : ℕ) :
    ∀ c ∈ Digits.padded width n, Text.isBlank c = false :=
  fun c hc => Digits.isBlank_of_isDigit (Digits.isDigit_padded width n c hc)

theorem datedText_ne_nil (x : Instant) : x.datedText ≠ [] :=
  List.append_ne_nil_of_left_ne_nil (Digits.padded_ne_nil 2 _) _

theorem isTrimmed_datedText (x : Instant) : Text.IsTrimmed x.datedText := by
  apply Text.isTrimmed_append (Digits.padded_ne_nil 2 _) (by simp)
  · exact fun c hc => isBlank_of_mem_padded 2 _ c (List.mem_of_head? hc)
  · intro c hc
    simp only [List.getLast?_append, List.getLast?_cons] at hc
    obtain rfl : '0' = c := by simpa using hc
    rfl

theorem isTrimmed_weekday {i : ℕ} (hi : i < 7) {t : Text} (hne : t ≠ []) (ht : Text.IsTrimmed t) :
    Text.IsTrimmed ((Date.weekdayNames.getD i "").toList ++ ',' :: ' ' :: t) := by
  apply Text.isTrimmed_append _ (by simp)
  · interval_cases i <;> simp [Date.weekdayNames, Text.isBlank]
  · have hs : ',' :: ' ' :: t = [',', ' '] ++ t := rfl
    rw [hs, List.getLast?_append_of_ne_nil _ hne]
    exact ht.last
  · interval_cases i <;> simp [Date.weekdayNames]

theorem isTrimmed_headerText (x : Instant) : Text.IsTrimmed x.headerText := by
  rw [headerText_eq]
  exact isTrimmed_weekday (weekday_lt _) x.datedText_ne_nil x.isTrimmed_datedText

theorem isLine_yearText (y : ℤ) : Text.IsLine (yearText y) := by
  have hd (n : ℕ) : Text.IsLine (Digits.padded 4 n) :=
    Digits.isLine_of_isDigit (Digits.isDigit_padded 4 n)
  unfold yearText
  split
  · exact hd _
  · rw [Text.isLine_cons]
    exact ⟨by split <;> decide, hd _⟩

theorem isLine_headerText (x : Instant) : Text.IsLine x.headerText := by
  have hd (n : ℕ) : Text.IsLine (Digits.padded 2 n) :=
    Digits.isLine_of_isDigit (Digits.isDigit_padded 2 n)
  have hmonth : Text.IsLine (Date.monthNames.getD (x.date.month - 1) "").toList := by
    have hi : x.date.month - 1 < 12 := by
      have := x.date_bounds
      omega
    generalize x.date.month - 1 = i at hi
    interval_cases i <;> simp [Date.monthNames]
  have hweekday : Text.IsLine
      (Date.weekdayNames.getD (Date.weekday (x.secs / secondsPerDay)) "").toList := by
    have hi := weekday_lt (x.secs / secondsPerDay)
    generalize Date.weekday (x.secs / secondsPerDay) = i at hi
    interval_cases i <;> simp [Date.weekdayNames]
  rw [headerText_eq, datedText]
  simp only [Text.isLine_append, Text.isLine_cons, hd, hmonth, hweekday, isLine_yearText, true_and]
  simp

open Layout in
theorem readItems?_datedText (x : Instant) (items : List Item) :
    readItems? (.day :: .gap :: .monthName :: .gap :: items) {} x.datedText =
      readItems? items { date := ⟨0, x.date.month, x.date.day⟩ }
        (yearText x.date.year ++ ' ' :: (Digits.padded 2 x.clock.hour ++
          ':' :: (Digits.padded 2 x.clock.minute ++ ':' :: (Digits.padded 2 x.clock.second ++
          ' ' :: "+0000".toList)))) := by
  obtain ⟨hm0, hm1, -, hd⟩ := x.date_bounds
  have hi : x.date.month - 1 < 12 := by omega
  have hm : x.date.month - 1 + 1 = x.date.month := by omega
  have hsame := beq_self_eq_true ((Date.monthNames.getD (x.date.month - 1) "").toList.map Char.toLower)
  rw [datedText, readItems?_day _ _ _ (.inr rfl) (by omega) (Digits.head_cons rfl),
    readItems?_gap _ _ _ (Date.isBlank_head_month hi hsame _), readItems?_monthName _ _ _ hi hsame,
    readItems?_gap _ _ _ (head_yearText _ _), hm]

open Layout in
theorem ofZoned?_datedText {x : Instant} (h : x.IsRepresentable) :
    ofZoned? x.datedText = some x.wholeSecond := by
  obtain ⟨hhour, hminute, hsecond⟩ := clock_bounds h.nanos
  have hhead (n : ℕ) (r : Text) : ∀ c ∈ (Digits.padded 2 n ++ r).head?, Text.isBlank c = false :=
    Digits.isBlank_head_padded 2 n r
  have hshort (items : List Item) : Layout.read? (.day :: .gap :: .monthName :: .gap ::
      .yearOfCentury :: .gap :: .hour :: .mark ':' :: items) x.datedText = none := by
    rw [Layout.read?, readItems?_datedText, readItems?_yearOfCentury]
    rfl
  have hzone : "+0000".toList = Zone.offsetText false 0 0 := rfl
  have hlong : Layout.read? [.day, .gap, .monthName, .gap, .year, .gap, .hour, .mark ':', .minute,
      .mark ':', .second, .gap, .zone] x.datedText = some x.wholeSecond := by
    rw [Layout.read?, readItems?_datedText, readItems?_year, readItems?_gap _ _ _ (hhead _ _),
      readItems?_hour _ _ _ (by omega), readItems?_mark, readItems?_minute _ _ _ (by omega),
      readItems?_mark, readItems?_second _ _ _ (by omega), readItems?_gap _ _ _ (by simp [Text.isBlank]),
      hzone, readItems?_zone _ false (by decide) (by decide), Option.bind_some]
    exact ofCivil?_clock h
  simp only [ofZoned?, zoned, clockItems, List.cons_append, List.nil_append, List.findSome?_cons,
    hshort, hlong]

theorem read?_headerText {x : Instant} (h : x.IsRepresentable) :
    read? x.headerText = some x.wholeSecond := by
  have hne : x.headerText.isEmpty = false := by
    rw [headerText_eq]
    simp
  have hdropped : dropWeekday x.headerText = x.datedText := by
    rw [headerText_eq, dropWeekday_append (weekday_lt _), isTrimmed_datedText]
  rw [read?, isTrimmed_headerText, hne, hdropped, if_neg (by simp)]
  dsimp only
  rw [ofZoned?_datedText h]
  rfl

end MimeMail.Instant
