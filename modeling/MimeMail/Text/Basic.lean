/-!
Texts are lists of characters and raw mail is a list of bytes. This module has the white space of
texts, words, search for a mark, and comparison up to the case of ASCII letters.
-/

namespace MimeMail

abbrev Text := List Char

abbrev Bytes := List UInt8

def dropStart? {α : Type} [BEq α] : List α → List α → Option (List α)
  | [], l => some l
  | _ :: _, [] => none
  | a :: start, b :: l => if a == b then dropStart? start l else none

theorem dropStart?_eq_some_iff {α : Type} [BEq α] [LawfulBEq α] {start l rest : List α} :
    dropStart? start l = some rest ↔ l = start ++ rest := by
  induction start generalizing l with
  | nil => simp [dropStart?]
  | cons a start ih =>
    cases l with
    | nil => simp [dropStart?]
    | cons b l =>
      by_cases h : a = b
      · simp [dropStart?, h, ih]
      · simp [dropStart?, h, Ne.symm h]

namespace Text

def isBlank (c : Char) : Bool :=
  let n := c.toNat
  (0x09 ≤ n && n ≤ 0x0D) || n == 0x20 || n == 0x85 || n == 0xA0 || n == 0x1680 ||
    (0x2000 ≤ n && n ≤ 0x200A) || n == 0x2028 || n == 0x2029 || n == 0x202F || n == 0x205F ||
    n == 0x3000

def trimStart (t : Text) : Text := t.dropWhile isBlank

def trimEnd (t : Text) : Text := (t.reverse.dropWhile isBlank).reverse

def trim (t : Text) : Text := trimEnd (trimStart t)

def isAscii (t : Text) : Bool := t.all fun c => c.toNat < 128

def isGraphic (c : Char) : Bool := 0x21 ≤ c.toNat && c.toNat ≤ 0x7E

def isWithin (ranges : List (Nat × Nat)) (c : Char) : Bool :=
  ranges.any fun (low, high) => low ≤ c.toNat && c.toNat ≤ high

def same (s t : Text) : Bool := s.map Char.toLower == t.map Char.toLower

def cutAt (mark : Text) : Text → Option (Text × Text)
  | [] => if mark.isEmpty then some ([], []) else none
  | c :: r =>
    match dropStart? mark (c :: r) with
    | some rest => some ([], rest)
    | none => (cutAt mark r).map fun (before, after) => (c :: before, after)

def words (t : Text) : List Text := go t []
where
  go : Text → Text → List Text
    | [], w => if w.isEmpty then [] else [w.reverse]
    | c :: r, w =>
      if isBlank c then if w.isEmpty then go r [] else w.reverse :: go r []
      else go r (c :: w)

def join (mark : Text) : List Text → Text
  | [] => []
  | [t] => t
  | t :: ts => t ++ mark ++ join mark ts

def padLeft (c : Char) (width : Nat) (t : Text) : Text :=
  List.replicate (width - t.length) c ++ t

def padRight (c : Char) (width : Nat) (t : Text) : Text :=
  t ++ List.replicate (width - t.length) c

def oneLine (t : Text) : Text := t.map fun c => if c == '\r' || c == '\n' then ' ' else c

theorem cutAt_eq_some {mark t before after : Text} (h : cutAt mark t = some (before, after)) :
    t = before ++ mark ++ after := by
  induction t generalizing before after with
  | nil =>
    simp only [cutAt] at h
    split at h <;> simp_all
  | cons c r ih =>
    simp only [cutAt] at h
    split at h
    · next rest hr =>
      cases h
      simpa using dropStart?_eq_some_iff.1 hr
    · obtain ⟨⟨b, a⟩, hc, hba⟩ := Option.map_eq_some_iff.1 h
      cases hba
      simp [ih hc]

theorem length_of_cutAt {mark t before after : Text} (h : cutAt mark t = some (before, after)) :
    after.length + mark.length ≤ t.length := by
  rw [cutAt_eq_some h]
  simp
  omega

end Text

end MimeMail
