import MimeMail.Date.Instant
import MimeMail.Date.Zone

namespace MimeMail.Timestamp

def readFraction? : Text → Option (Nat × Text)
  | '.' :: r =>
    (Digits.read? 1 9 r).map fun (n, rest) =>
      (n * Nat.pow 10 (9 - (r.length - rest.length)), rest.dropWhile Digits.isDigit)
  | t => some (0, t)

def readZone? : Text → Option (Int × Text)
  | 'Z' :: r => some (0, r)
  | 'z' :: r => some (0, r)
  | t => Zone.read? true (dropStart? [':']) t

def read? (t : Text) : Option Instant := do
  let (year, t) ← Digits.read? 4 4 t
  let t ← dropStart? ['-'] t
  let (month, t) ← Digits.read? 2 2 t
  let t ← dropStart? ['-'] t
  let (day, t) ← Digits.read? 2 2 t
  let c ← t.head?
  if c != 'T' && c != 't' && c != ' ' then failure
  let (hour, t) ← Digits.read? 2 2 (t.drop 1)
  let t ← dropStart? [':'] t
  let (minute, t) ← Digits.read? 2 2 t
  let t ← dropStart? [':'] t
  let (second, t) ← Digits.read? 2 2 t
  let (nanos, t) ← readFraction? t
  let (offset, t) ← readZone? t
  if !t.isEmpty then failure
  let x ← Instant.ofCivil? ⟨year, month, day⟩ ⟨hour, minute, second⟩ offset
  some { x with nanos := x.nanos + nanos }

end MimeMail.Timestamp
