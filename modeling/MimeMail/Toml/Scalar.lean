import MimeMail.Date.Calendar
import MimeMail.Number.Rounding
import MimeMail.Toml.Quoted

namespace MimeMail.Toml

namespace Scalar

def digits? (value? : Char → Option Nat) : Text → Option (List Nat × Text)
  | [] => none
  | c :: r =>
    match value? c with
    | none => none
    | some d =>
      let more := match r with
        | '_' :: r => digits? value? r
        | e :: r => if (value? e).isSome then digits? value? (e :: r) else some ([], e :: r)
        | [] => some ([], [])
      more.map fun (ds, rest) => (d :: ds, rest)

def whole? (t : Text) : Option (Bool × List Nat × Text) :=
  let (negative, t) := Digits.takeSign t
  match t with
  | '0' :: r => some (negative, [0], r)
  | _ => (digits? Digits.value? t).map fun (ds, rest) => (negative, ds, rest)

def ofParts? (base : Nat) (negative : Bool) (ds : List Nat) : Option Value :=
  (Digits.signed? negative (Digits.number base ds)).map .integer

def digit? (base : Nat) (c : Char) : Option Nat := (Digits.hexValue? c).filter (· < base)

def based? (base : Nat) (t : Text) : Option (Value × Text) := do
  let (ds, rest) ← digits? (digit? base) t
  let value ← ofParts? base false ds
  some (value, rest)

def integer? (t : Text) : Option (Value × Text) :=
  match t with
  | '0' :: 'x' :: r => based? 16 r
  | '0' :: 'o' :: r => based? 8 r
  | '0' :: 'b' :: r => based? 2 r
  | _ =>
    (whole? t).bind fun (negative, ds, rest) => (ofParts? 10 negative ds).map fun value => (value, rest)

def overflows (n : Nat) (e : Int) : Bool :=
  let size : Int := (Digits.ofNat n).length + e
  if n == 0 || size < 300 then false
  else if 400 < size then true
  else
    let bound := Nat.pow 2 1024 - Nat.pow 2 970
    let (a, b) := scaleTen n 1 e
    bound * b ≤ a

def exponent? (t : Text) : Option (Int × Text) :=
  let (negative, t) := Digits.takeSign t
  (digits? Digits.value? t).map fun (ds, rest) =>
    let n : Int := Digits.number 10 ds
    (if negative then -n else n, rest)

def decimal? (t : Text) : Option (Value × Text) := do
  let (negative, ds, rest) ← whole? t
  let (places, rest) ←
    match rest with
    | '.' :: r => digits? Digits.value? r
    | c :: _ => if c == 'e' || c == 'E' then some ([], rest) else none
    | [] => none
  let (e, rest) ←
    match rest with
    | c :: r => if c == 'e' || c == 'E' then exponent? r else some (0, rest)
    | [] => some (0, [])
  if !negative && overflows (Digits.number 10 (ds ++ places)) (e - places.length) then none
  else some (.float (t.take (t.length - rest.length)), rest)

def special? (t : Text) : Option (Value × Text) :=
  let (_, r) := Digits.takeSign t
  (dropStart? "inf".toList r <|> dropStart? "nan".toList r).map fun rest =>
    (.float (t.take (t.length - rest.length)), rest)

def pair? (least most : Nat) (t : Text) : Option (Nat × Text) :=
  (Digits.read? 2 2 t).filter fun (n, _) => least ≤ n && n ≤ most

def time? (t : Text) : Option Text := do
  let (_, t) ← pair? 0 23 t
  let t ← dropStart? [':'] t
  let (_, t) ← pair? 0 59 t
  let t ← dropStart? [':'] t
  let (_, t) ← pair? 0 60 t
  match t with
  | '.' :: r =>
    if (r.head?.map Digits.isDigit).getD false then some (r.dropWhile Digits.isDigit) else none
  | _ => some t

def offset? (t : Text) : Option Text :=
  match t with
  | [] => some []
  | c :: r =>
    if c == 'Z' || c == 'z' then some r
    else if c == '+' || c == '-' then do
      let (_, t) ← pair? 0 23 r
      let t ← dropStart? [':'] t
      let (_, t) ← pair? 0 59 t
      some t
    else some t

def date? (t : Text) : Option Text := do
  let (year, t) ← Digits.read? 4 4 t
  let t ← dropStart? ['-'] t
  let (month, t) ← pair? 1 12 t
  let t ← dropStart? ['-'] t
  let (_, t) ← pair? 1 (Date.daysInMonth year month) t
  some t

def dateTime? (t : Text) : Option Text := do
  let t ← date? t
  match t with
  | c :: r =>
    if c == 'T' || c == 't' || c == ' ' then
      match time? r with
      | some rest => offset? rest
      | none => some t
    else some t
  | [] => some []

def read? (t : Text) : Option (Value × Text) :=
  let moment := (dateTime? t <|> time? t).map fun rest =>
    (Value.dateTime (t.take (t.length - rest.length)), rest)
  let word (name : String) (value : Value) := (dropStart? name.toList t).map fun rest => (value, rest)
  moment <|> decimal? t <|> special? t <|> integer? t <|> word "true" (.boolean true) <|>
    word "false" (.boolean false)

end Scalar

end MimeMail.Toml
