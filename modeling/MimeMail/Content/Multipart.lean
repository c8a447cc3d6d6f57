import MimeMail.Text.Lines
import MimeMail.Text.Utf8

/-!
Multipart bodies. Delimiter lines are the boundary after two hyphens, and two more hyphens close the
body. The line break before a delimiter line belongs to it, so parts are exactly what stands
between.
-/

namespace MimeMail.Multipart

def hyphens : Bytes := [0x2D, 0x2D]

inductive Delimiter where
  | between
  | closing
  deriving DecidableEq

def isBlank (b : UInt8) : Bool :=
  b == 0x20 || b == 0x09 || b == 0x0A || b == 0x0C || b == 0x0D

def delimiter? (boundary : Text) (line : Bytes) : Option Delimiter :=
  let bare := (line.reverse.dropWhile isBlank).reverse
  let rest? := dropStart? (hyphens ++ Utf8.encode boundary) bare
  if rest? == some [] then some .between
  else if rest? == some hyphens then some .closing
  else none

def dropBreak (bs : Bytes) : Bytes :=
  match bs.reverse with
  | 0x0A :: 0x0D :: r => r.reverse
  | 0x0A :: r => r.reverse
  | _ => bs

/-- The parts in the order of the body. What comes before the first delimiter line or after the
closing one is no part, nor is a part with no delimiter line after it. -/
def split (boundary : Text) (body : Bytes) : List Bytes := go none (Lines.cutAfter 0x0A body)
where
  go : Option (List Bytes) → List Bytes → List Bytes
    | _, [] => []
    | part, line :: lines =>
      match delimiter? boundary line with
      | none => go (part.map (line :: ·)) lines
      | some kind =>
        (part.map fun part => dropBreak part.reverse.flatten).toList ++
          if kind = .closing then [] else go (some []) lines

end MimeMail.Multipart
