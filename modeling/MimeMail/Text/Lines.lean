import MimeMail.Text.Basic

namespace MimeMail.Lines

def cutAfter {α : Type} [BEq α] (stop : α) (l : List α) : List (List α) := go l []
where
  go : List α → List α → List (List α)
    | [], line => if line.isEmpty then [] else [line.reverse]
    | a :: r, line => if a == stop then (a :: line).reverse :: go r [] else go r (a :: line)

def dropBreak (line : Text) : Text :=
  match line.reverse with
  | '\n' :: '\r' :: r => r.reverse
  | '\n' :: r => r.reverse
  | _ => line

def ofText (t : Text) : List Text := (cutAfter '\n' t).map dropBreak

theorem flatten_go {α : Type} [BEq α] (stop : α) (l line : List α) :
    (cutAfter.go stop l line).flatten = line.reverse ++ l := by
  induction l generalizing line with
  | nil => cases line <;> simp [cutAfter.go]
  | cons a r ih => by_cases h : a == stop <;> simp [cutAfter.go, h, ih]

theorem flatten_cutAfter {α : Type} [BEq α] (stop : α) (l : List α) :
    (cutAfter stop l).flatten = l := by
  simp [cutAfter, flatten_go]

end MimeMail.Lines
