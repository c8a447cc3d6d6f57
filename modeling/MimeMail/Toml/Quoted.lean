import MimeMail.Text.Digits
import MimeMail.Toml.Basic

/-!
Strings of TOML: with escapes between double quotes or as they are between single ones, and each on
one line or, between three quotes, on several. A text is written in the plainest form that takes it.
-/

namespace MimeMail.Toml

namespace Quoted

def escape? (c : Char) : Option Char :=
  match c with
  | 'b' => some '\x08'
  | 't' => some '\t'
  | 'n' => some '\n'
  | 'f' => some '\x0C'
  | 'r' => some '\r'
  | '"' => some '"'
  | '\\' => some '\\'
  | _ => none

def scalar? (digits : Text) : Option Char := do
  let n := Digits.number 16 (← digits.mapM Digits.hexValue?)
  if n.isValidChar then some (Char.ofNat n) else none

def basic? : Text → Option (Text × Text)
  | [] => none
  | '"' :: r => some ([], r)
  | '\\' :: 'u' :: a :: b :: c :: d :: r =>
    (scalar? [a, b, c, d]).bind fun x => (basic? r).map fun (t, rest) => (x :: t, rest)
  | '\\' :: 'U' :: a :: b :: c :: d :: e :: f :: g :: h :: r =>
    (scalar? [a, b, c, d, e, f, g, h]).bind fun x =>
      (basic? r).map fun (t, rest) => (x :: t, rest)
  | '\\' :: c :: r => (escape? c).bind fun x => (basic? r).map fun (t, rest) => (x :: t, rest)
  | c :: r =>
    if isPrintable c && c != '\\' then (basic? r).map fun (t, rest) => (c :: t, rest) else none

def literal? : Text → Option (Text × Text)
  | [] => none
  | '\'' :: r => some ([], r)
  | c :: r => if isPrintable c then (literal? r).map fun (t, rest) => (c :: t, rest) else none

def lastQuotes (quote : Char) : Text → Text × Text
  | a :: b :: r =>
    if a == quote && b == quote then ([a, b], r) else if a == quote then ([a], b :: r)
    else ([], a :: b :: r)
  | [a] => if a == quote then ([a], []) else ([], [a])
  | [] => ([], [])

def dropLineBreak : Text → Text
  | '\n' :: r => r
  | '\r' :: '\n' :: r => r
  | t => t

def startsLineEnd (t : Text) : Bool :=
  match skipBlanks t with
  | '\n' :: _ => true
  | '\r' :: '\n' :: _ => true
  | _ => false

def basicLines? (skipping : Bool) : Text → Option (Text × Text)
  | [] => none
  | c :: r =>
    if skipping && (isBlank c || c == '\n' || (c == '\r' && r.head? == some '\n')) then
      basicLines? true r
    else
      match c, r with
      | '"', '"' :: '"' :: r => some (lastQuotes '"' r)
      | '\\', 'u' :: a :: b :: c :: d :: r =>
        (scalar? [a, b, c, d]).bind fun x =>
          (basicLines? false r).map fun (t, rest) => (x :: t, rest)
      | '\\', 'U' :: a :: b :: c :: d :: e :: f :: g :: h :: r =>
        (scalar? [a, b, c, d, e, f, g, h]).bind fun x =>
          (basicLines? false r).map fun (t, rest) => (x :: t, rest)
      | '\\', c :: r =>
        if startsLineEnd (c :: r) then basicLines? true r
        else (escape? c).bind fun x => (basicLines? false r).map fun (t, rest) => (x :: t, rest)
      | '\r', '\n' :: r => (basicLines? false r).map fun (t, rest) => ('\n' :: t, rest)
      | c, r =>
        if c == '\n' || (isPrintable c && c != '\\') then
          (basicLines? false r).map fun (t, rest) => (c :: t, rest)
        else none

def literalLines? : Text → Option (Text × Text)
  | [] => none
  | '\'' :: '\'' :: '\'' :: r => some (lastQuotes '\'' r)
  | '\r' :: '\n' :: r => (literalLines? r).map fun (t, rest) => ('\n' :: t, rest)
  | c :: r =>
    if c == '\n' || isPrintable c then (literalLines? r).map fun (t, rest) => (c :: t, rest)
    else none

def read? : Text → Option (Text × Text)
  | '"' :: '"' :: '"' :: r => basicLines? false (dropLineBreak r)
  | '"' :: r => basic? r
  | '\'' :: '\'' :: '\'' :: r => literalLines? (dropLineBreak r)
  | '\'' :: r => literal? r
  | _ => none

inductive Form where
  | basic
  | literal
  | basicLines
  | literalLines
  deriving DecidableEq

def isControl (c : Char) : Bool := !isPrintable c && c != '\n'

def longestRun (quote : Char) (t : Text) : Nat := go 0 t
where
  go (run : Nat) : Text → Nat
    | [] => run
    | c :: r => if c == quote then go (run + 1) r else max run (go 0 r)

def form (t : Text) : Form :=
  let lines := t.contains '\n'
  let plain := !t.any isControl
  let bare := plain && !t.contains '\\'
  if bare && !lines && longestRun '"' t == 0 then .basic
  else if plain && !lines && longestRun '\'' t == 0 then .literal
  else if bare && longestRun '"' t ≤ 2 then .basicLines
  else if plain && longestRun '\'' t ≤ 2 then .literalLines
  else if lines then .basicLines
  else .basic

def numbered (c : Char) : Text :=
  "\\u00".toList ++
    [(Nat.digitChar (c.toNat / 16)).toUpper, (Nat.digitChar (c.toNat % 16)).toUpper]

def written (lines : Bool) (c : Char) : Text :=
  match c with
  | '\x08' => ['\\', 'b']
  | '\t' => ['\\', 't']
  | '\n' => if lines then ['\n'] else ['\\', 'n']
  | '\x0C' => ['\\', 'f']
  | '\r' => ['\\', 'r']
  | '\\' => ['\\', '\\']
  | _ => if isControl c then numbered c else [c]

def escaped (lines : Bool) : Nat → Text → Text
  | _, [] => []
  | run, c :: r =>
    if c == '"' then
      if run < (if lines then 2 else 0) then '"' :: escaped lines (run + 1) r
      else '\\' :: '"' :: escaped lines 0 r
    else written lines c ++ escaped lines 0 r

def write (t : Text) : Text :=
  let first : Text := if t.contains '\n' then ['\n'] else []
  match form t with
  | .basic => '"' :: escaped false 0 t ++ ['"']
  | .literal => '\'' :: t ++ ['\'']
  | .basicLines => "\"\"\"".toList ++ first ++ escaped true 0 t ++ "\"\"\"".toList
  | .literalLines => "'''".toList ++ first ++ t ++ "'''".toList

end Quoted

end MimeMail.Toml
