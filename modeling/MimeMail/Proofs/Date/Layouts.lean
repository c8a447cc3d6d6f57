import MimeMail.Date.Layout
import MimeMail.Proofs.Date.Zones
import MimeMail.Proofs.Text.Lowercase

namespace MimeMail.Date

theorem takeName?_append {names : List String} {i : ℕ} {name : Text} (r : Text)
    (hi : i < names.length) (h : Text.same (names.getD i "").toList name = true)
    (hlength : ∀ m ∈ names, m.length = name.length)
    (hdistinct : names.Pairwise fun m n => Text.same m.toList n.toList = false) :
    takeName? names (name ++ r) = some (i, r) := by
  rw [List.getD_eq_getElem _ _ hi] at h
  have hsame : ∀ m ∈ names, Text.same m.toList ((name ++ r).take m.length) =
      Text.same m.toList names[i].toList := by
    intro m hm
    rw [List.take_left' (hlength m hm).symm, Text.same, Text.same, ← beq_iff_eq.mp h]
  have hfind : names.findIdx? (fun m => Text.same m.toList ((name ++ r).take m.length)) = some i := by
    rw [List.findIdx?_eq_some_iff_getElem]
    refine ⟨hi, ?_, fun j hj => ?_⟩
    · rw [hsame _ (List.getElem_mem hi)]
      exact beq_self_eq_true _
    · rw [hsame _ (List.getElem_mem _), List.pairwise_iff_getElem.mp hdistinct j i _ hi hj]
      exact Bool.false_ne_true
  rw [takeName?, hfind, Option.map_some, List.getD_eq_getElem _ _ hi,
    hlength _ (List.getElem_mem hi), List.drop_left]

section Month

variable {i : ℕ} {name : Text} (hi : i < 12)
  (h : Text.same (monthNames.getD i "").toList name = true) (r : Text)

include hi h

theorem length_month : name.length = 3 := by
  have hthree : (monthNames.getD i "").toList.length = 3 := by interval_cases i <;> rfl
  have hsame := congrArg List.length (beq_iff_eq.mp h)
  rwa [List.length_map, List.length_map, hthree, eq_comm] at hsame

theorem takeName?_month : takeName? monthNames (name ++ r) = some (i, r) := by
  have hthree : ∀ m ∈ monthNames, m.length = 3 := by decide +kernel
  exact takeName?_append r hi h (fun m hm => (hthree m hm).trans (length_month hi h).symm)
    (by decide +kernel)

theorem isBlank_head_month : ∀ c ∈ (name ++ r).head?, Text.isBlank c = false := by
  have hlength := length_month hi h
  rw [List.head?_append_of_ne_nil _ (List.ne_nil_of_length_pos (by omega))]
  apply Text.isBlank_head_of_same h
  interval_cases i <;> simp [monthNames, Text.isBlank]

end Month

end MimeMail.Date

namespace MimeMail.Layout

theorem readShort?_append {ds : Text} (r : Text) (h : ∀ c ∈ ds, c.isDigit = true)
    (hl : 1 ≤ ds.length) (hm : ds.length ≤ 2)
    (hr : ds.length = 2 ∨ ∀ c ∈ r.head?, Digits.isDigit c = false) :
    readShort? (ds ++ r) = some (Nat.ofDigitChars 10 ds 0, r) := by
  have ht : Text.trimStart (ds ++ r) = ds ++ r := by
    apply Text.dropWhile_eq_self
    intro c hc
    rw [List.head?_append_of_ne_nil _ (List.ne_nil_of_length_pos hl)] at hc
    exact Digits.isBlank_of_isDigit (h c (List.mem_of_head? hc))
  rw [readShort?, ht]
  exact Digits.read?_append r h hl hm hr

theorem readShort?_padded {n : ℕ} (r : Text) (hn : n < 100) :
    readShort? (Digits.padded 2 n ++ r) = some (n, r) := by
  have hl : (Digits.padded 2 n).length = 2 := Digits.length_padded (by decide) hn
  rw [readShort?_append r (Digits.isDigit_padded 2 n) (by omega) hl.le (.inl hl),
    Digits.ofDigitChars_padded]

theorem readShort?_digits {ds : Text} {n : ℕ} (h : ds = Digits.ofNat n ∨ ds = Digits.padded 2 n)
    (hn : n < 100) {r : Text} (hr : ∀ c ∈ r.head?, Digits.isDigit c = false) :
    readShort? (ds ++ r) = some (n, r) := by
  rcases h with rfl | rfl
  · have hl : (Digits.ofNat n).length ≤ 2 :=
      (Nat.length_toDigits_le_iff (by decide) (by decide)).mpr hn
    rw [readShort?_append r (Digits.isDigit_ofNat n)
      (List.length_pos_iff.mpr (Digits.ofNat_ne_nil n)) hl (.inr hr), Digits.ofDigitChars_ofNat]
  · exact readShort?_padded r hn

theorem readYear?_of_isDigit {t : Text} (h : ∀ c ∈ t.head?, c.isDigit = true) :
    readYear? t = (Digits.read? 1 4 t).map fun (n, r) => ((n : ℤ), r) := by
  unfold readYear?
  split
  · exact absurd (h '-' rfl) (by decide)
  · exact absurd (h '+' rfl) (by decide)
  · rfl

theorem readYear?_yearText (y : ℤ) (r : Text) :
    readYear? (Instant.yearText y ++ ' ' :: r) = some (y, ' ' :: r) := by
  have hr : ∀ c ∈ (' ' :: r).head?, Digits.isDigit c = false := Digits.head_cons rfl
  unfold Instant.yearText
  split
  · next h =>
    simp only [Bool.and_eq_true, decide_eq_true_eq] at h
    have hd := Digits.isDigit_padded 4 y.toNat
    have hl : (Digits.padded 4 y.toNat).length = 4 := Digits.length_padded (by decide) (by omega)
    rw [readYear?_of_isDigit, Digits.read?_append _ hd (by omega) (by omega) (.inl hl),
      Digits.ofDigitChars_padded]
    · simp only [Option.map_some, Int.toNat_of_nonneg h.1]
    intro c hc
    rw [List.head?_append_of_ne_nil _ (Digits.padded_ne_nil 4 _)] at hc
    exact hd c (List.mem_of_head? hc)
  · next h =>
    simp only [Bool.and_eq_true, decide_eq_true_eq] at h
    have hl := List.length_pos_iff.mpr (Digits.padded_ne_nil 4 y.natAbs)
    have hread := Digits.read?_append (' ' :: r) (Digits.isDigit_padded 4 y.natAbs)
      (show 1 ≤ _ from hl)
      (show _ ≤ (Digits.padded 4 y.natAbs ++ ' ' :: r).length by simp) (.inr hr)
    rw [Digits.ofDigitChars_padded] at hread
    by_cases hy : y < 0
    · rw [if_pos hy, List.cons_append, readYear?, hread]
      simp only [Option.map_some, Option.some.injEq, Prod.mk.injEq, and_true]
      omega
    · rw [if_neg hy, List.cons_append, readYear?, hread]
      simp only [Option.map_some, Option.some.injEq, Prod.mk.injEq, and_true]
      omega

theorem head_yearText (y : ℤ) (r : Text) :
    ∀ c ∈ (Instant.yearText y ++ r).head?, Text.isBlank c = false := by
  intro c hc
  unfold Instant.yearText at hc
  split at hc
  · exact Digits.isBlank_head_padded 4 _ r c hc
  · cases hc
    split <;> rfl

section Items

variable (items : List Item) (x : Reading) (r : Text)

theorem readItems?_mark (c : Char) :
    readItems? (.mark c :: items) x (c :: r) = readItems? items x r := by
  have hmark : dropStart? [c] (c :: r) = some r := by simp [dropStart?]
  change ((dropStart? [c] (c :: r)).map _).bind _ = _
  rw [hmark]
  rfl

theorem readItems?_mark_ne {c d : Char} (h : c ≠ d) :
    readItems? (.mark c :: items) x (d :: r) = none := by
  have hmark : dropStart? [c] (d :: r) = none := by simp [dropStart?, h]
  change ((dropStart? [c] (d :: r)).map _).bind _ = _
  rw [hmark]
  rfl

theorem readItems?_gap (h : ∀ c ∈ r.head?, Text.isBlank c = false) :
    readItems? (.gap :: items) x (' ' :: r) = readItems? items x r := by
  have ht : Text.trimStart (' ' :: r) = r := Text.dropWhile_eq_self h
  change readItems? items x (Text.trimStart (' ' :: r)) = _
  rw [ht]

theorem readItems?_day {ds : Text} {n : ℕ} (h : ds = Digits.ofNat n ∨ ds = Digits.padded 2 n)
    (hn : n < 100) (hr : ∀ c ∈ r.head?, Digits.isDigit c = false) :
    readItems? (.day :: items) x (ds ++ r) = readItems? items { x with date.day := n } r := by
  change ((readShort? (ds ++ r)).map _).bind _ = _
  rw [readShort?_digits h hn hr]
  rfl

theorem readItems?_hour {n : ℕ} (hn : n < 100) :
    readItems? (.hour :: items) x (Digits.padded 2 n ++ r) =
      readItems? items { x with clock.hour := n } r := by
  change ((readShort? (Digits.padded 2 n ++ r)).map _).bind _ = _
  rw [readShort?_padded r hn]
  rfl

theorem readItems?_minute {n : ℕ} (hn : n < 100) :
    readItems? (.minute :: items) x (Digits.padded 2 n ++ r) =
      readItems? items { x with clock.minute := n } r := by
  change ((readShort? (Digits.padded 2 n ++ r)).map _).bind _ = _
  rw [readShort?_padded r hn]
  rfl

theorem readItems?_second {n : ℕ} (hn : n < 100) :
    readItems? (.second :: items) x (Digits.padded 2 n ++ r) =
      readItems? items { x with clock.second := n } r := by
  change ((readShort? (Digits.padded 2 n ++ r)).map _).bind _ = _
  rw [readShort?_padded r hn]
  rfl

theorem readItems?_monthName {i : ℕ} {name : Text} (hi : i < 12)
    (h : Text.same (Date.monthNames.getD i "").toList name = true) :
    readItems? (.monthName :: items) x (name ++ r) =
      readItems? items { x with date.month := i + 1 } r := by
  change ((Date.takeName? Date.monthNames (name ++ r)).map _).bind _ = _
  rw [Date.takeName?_month hi h]
  rfl

theorem readItems?_year (y : ℤ) :
    readItems? (.year :: items) x (Instant.yearText y ++ ' ' :: r) =
      readItems? items { x with date.year := y } (' ' :: r) := by
  have ht : Text.trimStart (Instant.yearText y ++ ' ' :: r) = Instant.yearText y ++ ' ' :: r :=
    Text.dropWhile_eq_self (head_yearText y _)
  change ((readYear? (Text.trimStart (Instant.yearText y ++ ' ' :: r))).map _).bind _ = _
  rw [ht, readYear?_yearText]
  rfl

theorem readItems?_shortYear {n : ℕ} (hn : n < 100) :
    readItems? (.yearOfCentury :: items) x (Digits.padded 2 n ++ r) =
      readItems? items { x with date.year := if n < 70 then 2000 + n else 1900 + n } r := by
  change ((readShort? (Digits.padded 2 n ++ r)).map _).bind _ = _
  rw [readShort?_padded r hn]
  rfl

theorem readItems?_zone (behind : Bool) {hours minutes : ℕ} (hh : hours ≤ 23) (hm : minutes ≤ 59) :
    readItems? [.zone] x (Zone.offsetText behind hours minutes) =
      some { x with offset := Zone.offsetSeconds behind hours minutes } := by
  have ht : Text.trimStart (Zone.offsetText behind hours minutes) =
      Zone.offsetText behind hours minutes := by
    apply Text.dropWhile_eq_self
    cases behind <;> simp [Zone.offsetText, Text.isBlank]
  have hmark : dropColons (Digits.padded 2 minutes) = Digits.padded 2 minutes := by
    apply Text.dropWhile_eq_self
    intro c hc
    have hd := Digits.isDigit_padded 2 minutes c (List.mem_of_head? hc)
    rw [Digits.isBlank_of_isDigit hd, Bool.or_false, beq_eq_false_iff_ne]
    rintro rfl
    exact absurd hd (by decide)
  change ((Zone.read? true (fun t => some (dropColons t))
    (Text.trimStart (Zone.offsetText behind hours minutes))).map _).bind _ = _
  rw [ht, Zone.read?_offsetText true (fun t => some (dropColons t)) behind hh hm (congrArg some hmark)]
  rfl

theorem readItems?_yearOfCentury (y : ℤ) :
    readItems? (.yearOfCentury :: .gap :: .hour :: .mark ':' :: items) x
      (Instant.yearText y ++ ' ' :: r) = none := by
  unfold Instant.yearText
  split
  · next h =>
    simp only [Bool.and_eq_true, decide_eq_true_eq] at h
    have hd := Digits.isDigit_padded 4 y.toNat
    have hl : (Digits.padded 4 y.toNat).length = 4 := Digits.length_padded (by decide) (by omega)
    generalize Digits.padded 4 y.toNat = ds at hd hl
    have hfront : (ds.take 2).length = 2 := by simp [hl]
    have hback : (ds.drop 2).length = 2 := by simp [hl]
    have hfirst := readShort?_append (ds.drop 2 ++ ' ' :: r)
      (fun c hc => hd c (List.mem_of_mem_take hc)) (by omega) hfront.le (.inl hfront)
    have hlast := readShort?_append (' ' :: r) (fun c hc => hd c (List.mem_of_mem_drop hc))
      (by omega) hback.le (.inl hback)
    have hsplit : ds ++ ' ' :: r = ds.take 2 ++ (ds.drop 2 ++ ' ' :: r) := by
      rw [← List.append_assoc, List.take_append_drop]
    have hgap : Text.trimStart (ds.drop 2 ++ ' ' :: r) = ds.drop 2 ++ ' ' :: r := by
      apply Text.dropWhile_eq_self
      intro c hc
      rw [List.head?_append_of_ne_nil _ (List.ne_nil_of_length_pos (by omega))] at hc
      exact Digits.isBlank_of_isDigit (hd c (List.mem_of_mem_drop (List.mem_of_head? hc)))
    rw [hsplit]
    change ((readShort? (ds.take 2 ++ (ds.drop 2 ++ ' ' :: r))).map _).bind _ = _
    rw [hfirst]
    change ((readShort? (Text.trimStart (ds.drop 2 ++ ' ' :: r))).map _).bind _ = _
    rw [hgap, hlast]
    rfl
  · have hn (c : Char) (t : Text) (hc : c = '-' ∨ c = '+') : readShort? (c :: t) = none := by
      rcases hc with rfl | rfl <;>
      · apply Digits.read?_eq_none (by decide)
        intro d hd
        cases hd
        rfl
    rw [List.cons_append]
    change ((readShort? (_ :: _)).map _).bind _ = _
    rw [hn]
    · rfl
    · split <;> simp

end Items

theorem readYear?_suffix {t rest : Text} {y : ℤ} (h : readYear? t = some (y, rest)) :
    rest <:+ t := by
  unfold readYear? at h
  split at h
  · obtain ⟨⟨n, u⟩, hu, h⟩ := Option.map_eq_some_iff.mp h
    cases h
    exact (Digits.read?_suffix hu).trans (List.suffix_cons _ _)
  · obtain ⟨⟨n, u⟩, hu, h⟩ := Option.map_eq_some_iff.mp h
    cases h
    exact (Digits.read?_suffix hu).trans (List.suffix_cons _ _)
  · obtain ⟨⟨n, u⟩, hu, h⟩ := Option.map_eq_some_iff.mp h
    cases h
    exact Digits.read?_suffix hu

theorem exists_of_readZone {x y : Reading} {t rest : Text}
    (h : readItem? .zone x t = some (y, rest)) :
    ∃ s c, t = s ++ c :: rest ∧ Digits.isDigit c = true := by
  obtain ⟨⟨offset, u⟩, hu, h⟩ := Option.map_eq_some_iff.mp h
  cases h
  have hmark : ∀ t, ∀ u ∈ some (dropColons t), u <:+ t := by
    rintro t u ⟨⟩
    exact List.dropWhile_suffix _
  obtain ⟨s, c, hs, hc⟩ := Zone.exists_of_read hmark hu
  obtain ⟨blanks, hb⟩ : Text.trimStart t <:+ t := List.dropWhile_suffix _
  exact ⟨blanks ++ s, c, by rw [List.append_assoc, ← hs, hb], hc⟩

theorem readItem?_suffix {item : Item} {x y : Reading} {t rest : Text}
    (h : readItem? item x t = some (y, rest)) : rest <:+ t := by
  have htrim : Text.trimStart t <:+ t := List.dropWhile_suffix _
  cases item with
  | mark c =>
    obtain ⟨u, hu, h⟩ := Option.map_eq_some_iff.mp h
    cases h
    rw [dropStart?_eq_some_iff.mp hu]
    exact List.suffix_append _ _
  | gap =>
    cases h
    exact htrim
  | day | monthNumber | yearOfCentury | hour | minute | second =>
    obtain ⟨⟨n, u⟩, hu, h⟩ := Option.map_eq_some_iff.mp h
    cases h
    exact (Digits.read?_suffix hu).trans htrim
  | monthName =>
    obtain ⟨⟨i, u⟩, hu, h⟩ := Option.map_eq_some_iff.mp h
    cases h
    obtain ⟨j, -, hj⟩ := Option.map_eq_some_iff.mp hu
    cases hj
    exact List.drop_suffix _ _
  | year =>
    obtain ⟨⟨n, u⟩, hu, h⟩ := Option.map_eq_some_iff.mp h
    cases h
    exact (readYear?_suffix hu).trans htrim
  | zone =>
    obtain ⟨s, c, rfl, -⟩ := exists_of_readZone h
    exact (List.suffix_cons _ _).trans (List.suffix_append _ _)

theorem exists_getLast?_of_read {items : List Item} {x y : Reading} {t : Text}
    (h : readItems? (items ++ [.zone]) x t = some y) :
    ∃ c ∈ t.getLast?, Digits.isDigit c = true := by
  induction items generalizing x t with
  | nil =>
    obtain ⟨⟨z, rest⟩, hzone, h⟩ := Option.bind_eq_some_iff.mp h
    obtain ⟨hrest, -⟩ := Option.ite_none_right_eq_some.mp h
    obtain ⟨s, c, rfl, hc⟩ := exists_of_readZone hzone
    rw [List.isEmpty_iff.mp hrest]
    exact ⟨c, List.getLast?_concat, hc⟩
  | cons item items ih =>
    obtain ⟨⟨z, rest⟩, hitem, h⟩ := Option.bind_eq_some_iff.mp h
    obtain ⟨c, hc, hd⟩ := ih h
    obtain ⟨s, rfl⟩ := readItem?_suffix hitem
    exact ⟨c, by rw [List.getLast?_append, hc]; rfl, hd⟩

end MimeMail.Layout
