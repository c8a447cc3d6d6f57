namespace MimeMail

def roundDiv (a b : Nat) : Nat :=
  let d := a / b
  let r := a % b
  if b < 2 * r || (2 * r == b && d % 2 == 1) then d + 1 else d

def scaleTwo (a b : Nat) (q : Int) : Nat × Nat :=
  if 0 ≤ q then (a * Nat.pow 2 q.toNat, b) else (a, b * Nat.pow 2 (-q).toNat)

def scaleTen (a b : Nat) (e : Int) : Nat × Nat :=
  if 0 ≤ e then (a * Nat.pow 10 e.toNat, b) else (a, b * Nat.pow 10 (-e).toNat)

end MimeMail
