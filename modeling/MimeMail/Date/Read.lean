import MimeMail.Date.Internet
import MimeMail.Date.Layout
import MimeMail.Date.Loose
import MimeMail.Date.Timestamp

namespace MimeMail.Instant

def dropWeekday (t : Text) : Text :=
  match Date.weekdayNames.findSome? fun name => dropStart? name.toList t with
  | some (',' :: r) => Text.trim r
  | some (' ' :: r) => Text.trim r
  | _ => t

def dropComment (t : Text) : Text :=
  match t.reverse with
  | ')' :: r =>
    match r.dropWhile (· != '(') with
    | '(' :: r => Text.trimEnd r.reverse
    | _ => t
  | _ => t

def ofZoned? (t : Text) : Option Instant := Layout.zoned.findSome? (Layout.read? · t)

def read? (t : Text) : Option Instant :=
  let t := Text.trim t
  if t.isEmpty then none
  else
    let dated := dropWeekday t
    let bare := dropComment dated
    ofZoned? dated <|> ofZoned? bare <|> ofZoned? (Zone.expand bare) <|> InternetDate.read? t <|>
      Timestamp.read? t <|> Layout.zoneless.findSome? (Layout.read? · bare) <|> LooseDate.read? t

end MimeMail.Instant
