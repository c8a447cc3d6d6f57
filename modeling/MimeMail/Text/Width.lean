import MimeMail.Text.Basic
import MimeMail.Text.WidthData

/-!
Widths in columns of a terminal. How wide a text is need not be the sum of the widths of its
characters, so both are told.
-/

namespace MimeMail

structure Widths where
  char? : Char → Option Nat
  text : Text → Nat

namespace Widths

variable (w : Widths)

def char (c : Char) : Nat := (w.char? c).getD 0

def dots : Text := "...".toList

def fitting (columns : Nat) : Text → Text
  | [] => []
  | c :: r => if w.char c + dots.length ≤ columns then c :: fitting (columns - w.char c) r else []

def truncate (columns : Nat) (t : Text) : Text :=
  if w.text t ≤ columns then t else w.fitting columns t ++ dots

def fill (columns : Nat) (t : Text) : Text := t ++ List.replicate (columns - w.text t) ' '

end Widths

namespace Text

def isControl (c : Char) : Bool := c.toNat < 0x20 || (0x7F ≤ c.toNat && c.toNat < 0xA0)

def charWidth? (c : Char) : Option Nat :=
  if isControl c then none
  else if c.toNat < 0x7F then some 1
  else if isWithin WidthData.zero c then some 0
  else if c == '\u17D8' then some 3
  else if isWithin WidthData.wide c then some 2
  else some 1

/-- What the character in front of a text may join with. -/
inductive Joint where
  | none
  | newline
  | emoji
  | skinTone
  | joiner
  -- A selector of the look of an emoji, `joined` if a joiner follows it.
  | emojiSelector (joined : Bool)
  | textSelector
  | alef

def isSkinTone (c : Char) : Bool := 0x1F3FB ≤ c.toNat && c.toNat ≤ 0x1F3FF

def isEmoji (c : Char) : Bool := isWithin WidthData.emoji c || isWithin WidthData.textEmoji c

def isLam (c : Char) : Bool :=
  isWithin [(0x644, 0x644), (0x6B5, 0x6B8), (0x76A, 0x76A), (0x8A6, 0x8A6), (0x8C7, 0x8C7)] c

def isAlef (c : Char) : Bool :=
  isWithin [(0x622, 0x623), (0x625, 0x625), (0x627, 0x627), (0x671, 0x673), (0x675, 0x675),
    (0x773, 0x774), (0x870, 0x882)] c

def isTransparent (c : Char) : Bool :=
  isWithin WidthData.zero c && !isWithin WidthData.separating c

def jointOf (c : Char) : Joint :=
  if c == '\n' then .newline
  else if c == '\uFE0F' then .emojiSelector false
  else if c == '\uFE0E' then .textSelector
  else if isSkinTone c then .skinTone
  else if isWithin WidthData.emoji c then .emoji
  else if isAlef c then .alef
  else .none

def joined? (c : Char) : Joint → Option (Nat × Joint)
  | .none => none
  | .newline => if c == '\r' then some (0, .none) else none
  | .emoji => if c == '\u200D' then some (0, .joiner) else none
  | .skinTone =>
    if c == '\u200D' then some (0, .joiner)
    else if isWithin WidthData.modifiable c then some (0, .emoji) else none
  | .joiner =>
    if c == '\uFE0F' then some (0, .emojiSelector true)
    else if isSkinTone c then some (0, .skinTone)
    else if isWithin WidthData.emoji c then some (0, .emoji) else none
  | .emojiSelector joined => if isEmoji c then some (if joined then 0 else 2, .emoji) else none
  | .textSelector => if isWithin WidthData.narrowable c then some (1, .none) else none
  | .alef => if isLam c then some (0, .none) else if isTransparent c then some (0, .alef) else none

def extend (c : Char) : Nat × Joint → Nat × Joint
  | (columns, next) =>
    let (more, joint) := (joined? c next).getD ((charWidth? c).getD 1, jointOf c)
    (columns + more, joint)

def width (t : Text) : Nat := (t.foldr extend (0, .none)).1

end Text

def Widths.terminal : Widths where
  char? := Text.charWidth?
  text := Text.width

end MimeMail
