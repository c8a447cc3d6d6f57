import MimeMail.Text.Basic
import MimeMail.Text.CaseData

namespace MimeMail.Text

def lowerChar (c : Char) : Text :=
  if c.toNat < 0x80 then [c.toLower]
  else if c == 'İ' then ['i', '\u0307']
  else
    match CaseData.runs.find? (·.covers c.toNat) with
    | some run => [Char.ofNat (c.toNat + run.shift).toNat]
    | none => [c]

def startsCased (t : Text) : Bool :=
  match t.dropWhile (isWithin CaseData.ignorable) with
  | c :: _ => isWithin CaseData.cased c
  | [] => false

def lowercase (t : Text) : Text := go [] t
where
  go (before : Text) : Text → Text
    | [] => []
    | c :: r =>
      if c == 'Σ' then
        (if startsCased before && !startsCased r then 'ς' else 'σ') :: go (c :: before) r
      else lowerChar c ++ go (c :: before) r

end MimeMail.Text
