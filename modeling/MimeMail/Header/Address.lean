import MimeMail.Header.EncodedWord

namespace MimeMail.Mailbox

def split (t : Text) : List Text := go t [] false false
where
  go : Text → Text → Bool → Bool → List Text
    | [], mailbox, _, _ => [mailbox.reverse]
    | c :: r, mailbox, quoted, angled =>
      if c == ',' && !quoted && !angled then mailbox.reverse :: go r [] quoted angled
      else
        let quoted' := if c == '"' then !quoted else quoted
        let angled' := if quoted then angled else if c == '<' then true else if c == '>' then false
          else angled
        go r (c :: mailbox) quoted' angled'

def name? (t : Text) : Option (Text × Text) :=
  if t.getLast? == some '>' then
    match t.reverse.dropWhile (· != '<') with
    | '<' :: before => some (before.reverse, t.drop before.length)
    | _ => none
  else none

def trimQuotes (t : Text) : Text :=
  (((t.dropWhile (· == '"')).reverse).dropWhile (· == '"')).reverse

def encode (t : Text) : Text :=
  match name? t with
  | some (name, address) =>
    let name := Text.trim name
    if name.isEmpty then address
    else if Text.isAscii name then name ++ ' ' :: address
    else EncodedWord.encode (trimQuotes name) ++ ' ' :: address
  | none => EncodedWord.encode t

def encodeList (t : Text) : Text :=
  let t := Text.oneLine t
  if Text.isAscii t then t
  else Text.join [',', ' '] ((split t).map fun mailbox => encode (Text.trim mailbox))

end MimeMail.Mailbox
