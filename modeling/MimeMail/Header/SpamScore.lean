import MimeMail.Header.Fields

namespace MimeMail.SpamScore

def top : Nat := 0xFFFFFFFF

def number? (t : Text) : Option Int :=
  let (negative, digits) := Digits.takeSign t
  if digits.isEmpty || !digits.all Digits.isDigit then none
  else Digits.signed? negative (Digits.take digits).1

def leading (t : Text) : Nat :=
  match (Text.words t).head?.bind number? with
  | some n => min n.toNat top
  | none => 0

def stars (t : Text) : Nat := ((Text.trim t).takeWhile (· == '*')).length % (top + 1)

def fieldName : Text := "X-GMX-Antispam".toList

def ofFields (fields : FieldMap) : Nat :=
  let score (name : Text) (read : Text → Nat) : Nat := ((fields.first? name).map read).getD 0
  max (score fieldName leading)
    (max (score "X-Watney-Antispam".toList leading) (score "X-Spam-Level".toList stars))

end MimeMail.SpamScore
