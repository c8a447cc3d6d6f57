import MimeMail.Proofs.Content.Multiparts

namespace MimeMail.Lines

variable {α : Type} [BEq α] [LawfulBEq α] {stop : α}

theorem cutAfter_flatten_of_append {l : List α} {g r : List (List α)}
    (h : cutAfter stop l = g ++ r) : cutAfter stop g.flatten = g := by
  induction l using cutAfter_induction stop generalizing g with
  | nil =>
    obtain ⟨rfl, -⟩ := List.append_eq_nil_iff.mp h.symm
    rfl
  | last p hn hp =>
    cases g with
    | nil => rfl
    | cons line g =>
      rw [cutAfter_of_not_mem hn hp] at h
      obtain ⟨rfl, hg⟩ := List.cons.inj h
      obtain ⟨rfl, -⟩ := List.append_eq_nil_iff.mp hg.symm
      simpa using cutAfter_of_not_mem hn hp
  | line p s hp ih =>
    cases g with
    | nil => rfl
    | cons line g =>
      rw [cutAfter_append_stop s hp] at h
      obtain ⟨rfl, hg⟩ := List.cons.inj h
      rw [List.flatten_cons, List.append_assoc, List.singleton_append,
        cutAfter_append_stop _ hp, ih hg]

theorem cutAfter_flatten_of_infix {l : List α} {g : List (List α)} (h : g <:+: cutAfter stop l) :
    cutAfter stop g.flatten = g := by
  obtain ⟨before, after, h⟩ := h
  rw [List.append_assoc] at h
  induction l using cutAfter_induction stop generalizing before with
  | nil =>
    obtain ⟨-, hg⟩ := List.append_eq_nil_iff.mp h
    obtain ⟨rfl, -⟩ := List.append_eq_nil_iff.mp hg
    rfl
  | last p hn hp =>
    cases before with
    | nil => exact cutAfter_flatten_of_append h.symm
    | cons line before =>
      rw [cutAfter_of_not_mem hn hp] at h
      obtain ⟨-, hg⟩ := List.append_eq_nil_iff.mp (List.cons.inj h).2
      obtain ⟨rfl, -⟩ := List.append_eq_nil_iff.mp hg
      rfl
  | line p s hp ih =>
    cases before with
    | nil => exact cutAfter_flatten_of_append h.symm
    | cons line before =>
      rw [cutAfter_append_stop s hp] at h
      exact ih before (List.cons.inj h).2

theorem mem_cutAfter_of_append {a d line : List α} (hd : stop ∉ d) (h : line ∈ cutAfter stop a) :
    line ∈ cutAfter stop (a ++ (d ++ [stop])) ∨
      line ++ (d ++ [stop]) ∈ cutAfter stop (a ++ (d ++ [stop])) := by
  induction a using cutAfter_induction stop with
  | nil => cases h
  | last p hn hp =>
    rw [cutAfter_of_not_mem hn hp, List.mem_singleton] at h
    have hpd : stop ∉ p ++ d := by simp [hp, hd]
    rw [h, ← List.append_assoc, cutAfter_append_stop [] hpd]
    exact .inr List.mem_cons_self
  | line p r hp ih =>
    rw [List.append_assoc, List.cons_append, cutAfter_append_stop _ hp]
    rw [cutAfter_append_stop _ hp, List.mem_cons] at h
    rcases h with rfl | h
    · exact .inl List.mem_cons_self
    · exact (ih h).imp (List.mem_cons_of_mem _) (List.mem_cons_of_mem _)

def start (lines : List (List α)) (i : ℕ) : ℕ := ((lines.map List.length).take i).sum

theorem start_eq_length {α : Type} (lines : List (List α)) (i : ℕ) :
    start lines i = (lines.take i).flatten.length := by
  rw [start, List.length_flatten, List.map_take]

end MimeMail.Lines

namespace MimeMail.Multipart

variable {boundary : Text}

def IsClosingLine (boundary : Text) (line : Bytes) : Prop :=
  line.rdropWhile isBlank = mark boundary hyphens

def IsDelimiterLine (boundary : Text) (line : Bytes) : Prop :=
  line.rdropWhile isBlank = mark boundary [] ∨ IsClosingLine boundary line

instance (boundary : Text) : DecidablePred (IsClosingLine boundary) :=
  fun line => inferInstanceAs (Decidable (line.rdropWhile isBlank = mark boundary hyphens))

instance (boundary : Text) : DecidablePred (IsDelimiterLine boundary) :=
  fun line => inferInstanceAs
    (Decidable (line.rdropWhile isBlank = mark boundary [] ∨ IsClosingLine boundary line))

theorem avoids_iff {bs : Bytes} :
    Avoids boundary bs ↔ ∀ line ∈ Lines.cutAfter 0x0A bs, ¬ IsDelimiterLine boundary line := by
  simp only [Avoids, IsDelimiterLine, IsClosingLine, not_or]

def IsWithoutBreak (piece part : Bytes) : Prop :=
  piece = part ++ crlf ∨ (piece = part ++ [0x0A] ∧ part.getLast? ≠ some 0x0D) ∨
    (piece = part ∧ piece.getLast? ≠ some 0x0A)

theorem isWithoutBreak_dropBreak (piece : Bytes) : IsWithoutBreak piece (dropBreak piece) := by
  by_cases hn : piece.getLast? = some 0x0A
  · obtain ⟨p, rfl⟩ := List.getLast?_eq_some_iff.mp hn
    by_cases hr : p.getLast? = some 0x0D
    · obtain ⟨q, rfl⟩ := List.getLast?_eq_some_iff.mp hr
      have hq : q ++ [0x0D] ++ [0x0A] = q ++ crlf := by simp [crlf]
      rw [hq, dropBreak_append_crlf]
      exact .inl rfl
    · rw [dropBreak_append_newline hr]
      exact .inr (.inl ⟨rfl, hr⟩)
  · rw [dropBreak_of_last hn]
    exact .inr (.inr ⟨rfl, hn⟩)

theorem Avoids.of_append {bs d : Bytes} (hd : 0x0A ∉ d) (hb : ∀ b ∈ d ++ [0x0A], isBlank b = true)
    (h : Avoids boundary (bs ++ (d ++ [0x0A]))) : Avoids boundary bs := by
  intro line hl
  rcases Lines.mem_cutAfter_of_append hd hl with hm | hm
  · exact h line hm
  · have hline := h _ hm
    rwa [Text.rdropWhile_append_of_all hb] at hline

theorem Avoids.of_isWithoutBreak {piece part : Bytes} (hp : IsWithoutBreak piece part)
    (h : Avoids boundary piece) : Avoids boundary part := by
  rcases hp with rfl | ⟨rfl, -⟩ | ⟨rfl, -⟩
  · exact .of_append (d := [0x0D]) (by simp) (by simp [isBlank]) h
  · exact .of_append (d := []) (by simp) (by simp [isBlank]) h
  · exact h

theorem delimiter?_cases (boundary : Text) (line : Bytes) :
    (delimiter? boundary line = none ∧ ¬ IsDelimiterLine boundary line) ∨
      (delimiter? boundary line = some .between ∧ IsDelimiterLine boundary line ∧
        ¬ IsClosingLine boundary line) ∨
      (delimiter? boundary line = some .closing ∧ IsClosingLine boundary line) := by
  have hne : mark boundary [] ≠ mark boundary hyphens := by simp [mark, hyphens]
  rw [delimiter?_eq, IsDelimiterLine, IsClosingLine]
  by_cases hb : line.rdropWhile isBlank = mark boundary []
  · simp [hb, hne]
  · by_cases hc : line.rdropWhile isBlank = mark boundary hyphens
    · simp [hc, hne.symm]
    · simp [hb, hc]

def linesToClosing (boundary : Text) (lines : List Bytes) : List Bytes :=
  lines.take (lines.findIdx (IsClosingLine boundary ·) + 1)

/-- The numbers of the delimiter lines, in order, up to the first closing one. -/
def places (boundary : Text) (lines : List Bytes) : List ℕ :=
  (linesToClosing boundary lines).findIdxs (IsDelimiterLine boundary ·)

theorem linesToClosing_closing {line : Bytes} (lines : List Bytes)
    (h : IsClosingLine boundary line) : linesToClosing boundary (line :: lines) = [line] := by
  simp [linesToClosing, List.findIdx_cons, h]

theorem linesToClosing_cons {line : Bytes} (lines : List Bytes)
    (h : ¬ IsClosingLine boundary line) :
    linesToClosing boundary (line :: lines) = line :: linesToClosing boundary lines := by
  simp [linesToClosing, List.findIdx_cons, h]

def cuts (lines : List Bytes) (ps : List ℕ) : List Bytes :=
  (ps.zip ps.tail).map fun (i, j) => dropBreak ((lines.take j).drop (i + 1)).flatten

theorem cuts_cons_cons (lines : List Bytes) (i j : ℕ) (ps : List ℕ) :
    cuts lines (i :: j :: ps) =
      dropBreak ((lines.take j).drop (i + 1)).flatten :: cuts lines (j :: ps) := rfl

def openLines (done : List Bytes) (opened : Option ℕ) : Option (List Bytes) :=
  opened.map fun i => (done.drop (i + 1)).reverse

theorem openLines_append (line : Bytes) {done : List Bytes} {opened : Option ℕ}
    (ho : ∀ i ∈ opened, i < done.length) :
    openLines (done ++ [line]) opened = (openLines done opened).map (line :: ·) := by
  cases opened with
  | none => rfl
  | some i =>
    have hi : i + 1 ≤ done.length := ho i rfl
    simp [openLines, List.drop_append_of_le_length hi]

theorem openLines_self (line : Bytes) (done : List Bytes) :
    openLines (done ++ [line]) (some done.length) = some [] := by
  simp [openLines]

theorem cuts_opened (done rest : List Bytes) (opened : Option ℕ) (ps : List ℕ) :
    cuts (done ++ rest) (opened.toList ++ done.length :: ps) =
      ((openLines done opened).map fun lines => dropBreak lines.reverse.flatten).toList ++
        cuts (done ++ rest) (done.length :: ps) := by
  cases opened with
  | none => rfl
  | some i =>
    change cuts _ (i :: done.length :: ps) = _
    rw [cuts_cons_cons, List.take_left]
    simp [openLines]

theorem go_eq_cuts (done rest : List Bytes) (opened : Option ℕ)
    (ho : ∀ i ∈ opened, i < done.length) :
    split.go boundary (openLines done opened) rest =
      cuts (done ++ rest) (opened.toList ++
        (linesToClosing boundary rest).findIdxs (IsDelimiterLine boundary ·) done.length) := by
  induction rest generalizing done opened with
  | nil => cases opened <;> rfl
  | cons line rest ih =>
    have hdone : done ++ line :: rest = (done ++ [line]) ++ rest := by simp
    have hlen : (done ++ [line]).length = done.length + 1 := by simp
    rw [split.go]
    -- The line goes into the part that is open, or ends it, or ends the last one.
    rcases delimiter?_cases boundary line with ⟨hd, hl⟩ | ⟨hd, hl, hc⟩ | ⟨hd, hc⟩
    · have hc : ¬ IsClosingLine boundary line := fun hc => hl (.inr hc)
      have hi := ih (done ++ [line]) opened fun i hi => by
        have := ho i hi
        omega
      rw [openLines_append line ho, hlen, ← hdone] at hi
      rw [hd, linesToClosing_cons _ hc, List.findIdxs_cons, if_neg (by simpa using hl)]
      exact hi
    · have hi := ih (done ++ [line]) (some done.length) (by simp)
      rw [openLines_self, hlen, ← hdone] at hi
      rw [hd, linesToClosing_cons _ hc, List.findIdxs_cons, if_pos (by simpa using hl), cuts_opened]
      dsimp only
      rw [if_neg (by decide), hi]
      rfl
    · have hl : IsDelimiterLine boundary line := .inr hc
      rw [hd, linesToClosing_closing _ hc, List.findIdxs_singleton, if_pos (by simpa using hl),
        cuts_opened]
      dsimp only
      rw [if_pos rfl]
      simp [cuts]

theorem split_eq_cuts (boundary : Text) (body : Bytes) :
    split boundary body =
      cuts (Lines.cutAfter 0x0A body) (places boundary (Lines.cutAfter 0x0A body)) :=
  go_eq_cuts [] (Lines.cutAfter 0x0A body) none (by simp)

def between (body : Bytes) (i j : ℕ) : Bytes :=
  (body.take (Lines.start (Lines.cutAfter 0x0A body) j)).drop
    (Lines.start (Lines.cutAfter 0x0A body) (i + 1))

theorem between_eq (body : Bytes) {i j : ℕ} (h : i < j) :
    between body i j = (((Lines.cutAfter 0x0A body).take j).drop (i + 1)).flatten := by
  have htake := List.take_sum_flatten (Lines.cutAfter 0x0A body) j
  have hdrop := List.drop_sum_flatten ((Lines.cutAfter 0x0A body).take j) (i + 1)
  rw [Lines.flatten_cutAfter] at htake
  rw [List.map_take, List.take_take, Nat.min_eq_left h, ← htake] at hdrop
  exact hdrop

theorem length_between (body : Bytes) {i j : ℕ} (h : i < j) :
    Lines.start (Lines.cutAfter 0x0A body) (i + 1) + (between body i j).length =
      Lines.start (Lines.cutAfter 0x0A body) j := by
  have hrow : (Lines.cutAfter 0x0A body).take (i + 1) =
      ((Lines.cutAfter 0x0A body).take j).take (i + 1) := by
    rw [List.take_take, Nat.min_eq_left h]
  rw [between_eq body h, Lines.start_eq_length, Lines.start_eq_length, hrow, ← List.length_append,
    ← List.flatten_append, List.take_append_drop]

theorem IsWithoutBreak.length_le {piece part : Bytes} (h : IsWithoutBreak piece part) :
    part.length ≤ piece.length := by
  rcases h with rfl | ⟨rfl, -⟩ | ⟨rfl, -⟩
  · simp
  · simp
  · exact le_refl _

theorem neighbours_of_mem_zip_tail {ps : List ℕ} {i j : ℕ} (hs : ps.Pairwise (· < ·))
    (h : (i, j) ∈ ps.zip ps.tail) : i < j ∧ ∀ m ∈ ps, m ≤ i ∨ j ≤ m := by
  induction ps with
  | nil => cases h
  | cons a ps ih =>
    cases ps with
    | nil => cases h
    | cons b ps =>
      obtain ⟨ha, hps⟩ := List.pairwise_cons.mp hs
      rw [List.tail_cons, List.zip_cons_cons, List.mem_cons] at h
      rw [List.forall_mem_cons]
      rcases h with h | h
      · obtain ⟨rfl, rfl⟩ := Prod.mk.inj h
        refine ⟨ha j List.mem_cons_self, .inl (le_refl i), fun m hm => .inr ?_⟩
        rcases List.mem_cons.mp hm with rfl | hm
        · exact le_refl m
        · exact le_of_lt ((List.pairwise_cons.mp hps).1 m hm)
      · obtain ⟨hij, hm⟩ := ih hps h
        exact ⟨hij, .inl (le_of_lt (ha i (List.of_mem_zip h).1)), hm⟩

theorem mem_places {lines : List Bytes} {m j : ℕ} (hm : m < lines.length) (hmj : m < j)
    (hj : j ∈ places boundary lines) (h : IsDelimiterLine boundary lines[m]) :
    m ∈ places boundary lines := by
  obtain ⟨hlt, -⟩ := List.mem_findIdxs_iff_exists_getElem_pos.mp hj
  have hmlt : m < (linesToClosing boundary lines).length := hmj.trans hlt
  refine List.mem_findIdxs_iff_exists_getElem_pos.mpr ⟨hmlt, ?_⟩
  have he : (linesToClosing boundary lines)[m] = lines[m] := List.getElem_take
  rw [he]
  exact decide_eq_true h

theorem avoids_between (body : Bytes) {i j : ℕ}
    (h : (i, j) ∈ (places boundary (Lines.cutAfter 0x0A body)).zip
      (places boundary (Lines.cutAfter 0x0A body)).tail) :
    i < j ∧ Avoids boundary (between body i j) := by
  obtain ⟨hij, hnone⟩ := neighbours_of_mem_zip_tail List.pairwise_findIdxs h
  have hj : j ∈ places boundary (Lines.cutAfter 0x0A body) :=
    List.mem_of_mem_tail (List.of_mem_zip h).2
  have hrow : ((Lines.cutAfter 0x0A body).take j).drop (i + 1) <:+: Lines.cutAfter 0x0A body :=
    (List.drop_suffix _ _).isInfix.trans (List.take_prefix _ _).isInfix
  refine ⟨hij, avoids_iff.mpr fun line hl hd => ?_⟩
  rw [between_eq body hij, Lines.cutAfter_flatten_of_infix hrow] at hl
  obtain ⟨k, hk, rfl⟩ := List.mem_iff_getElem.mp hl
  rw [List.length_drop, List.length_take] at hk
  rw [List.getElem_drop, List.getElem_take] at hd
  have hm := mem_places (by omega) (by omega) hj hd
  have := hnone _ hm
  omega

/-- A part of a body, as it stands between the delimiter lines `i` and `j`. -/
structure IsPart (boundary : Text) (body : Bytes) (i j : ℕ) (part : Bytes) : Prop where
  withoutBreak : IsWithoutBreak (between body i j) part
  avoids : Avoids boundary part
  before : Lines.start (Lines.cutAfter 0x0A body) (i + 1) + part.length ≤
    Lines.start (Lines.cutAfter 0x0A body) j

theorem split_between (boundary : Text) (body : Bytes) :
    let ps := places boundary (Lines.cutAfter 0x0A body)
    (split boundary body).length = ps.length - 1 ∧
      List.Forall₂ (fun ends part => IsPart boundary body ends.1 ends.2 part)
        (ps.zip ps.tail) (split boundary body) := by
  intro ps
  have hsplit := split_eq_cuts boundary body
  constructor
  · rw [hsplit, cuts, List.length_map, List.length_zip, List.length_tail]
    exact Nat.min_eq_right (Nat.sub_le _ _)
  · rw [hsplit, cuts, List.forall₂_map_right_iff, List.forall₂_same]
    rintro ⟨i, j⟩ h
    obtain ⟨hij, havoids⟩ := avoids_between body h
    have hpart := isWithoutBreak_dropBreak (between body i j)
    dsimp only
    rw [← between_eq body hij]
    refine ⟨hpart, havoids.of_isWithoutBreak hpart, ?_⟩
    have hlen := length_between body hij
    have hle := hpart.length_le
    omega

end MimeMail.Multipart
