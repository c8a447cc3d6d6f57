import MimeMail.Content.Decode
import MimeMail.Message.Append
import MimeMail.Message.Basic

/-!
Sessions, in which one message after another is read, changed and filed. A step that fails leaves
the session as it was.
-/

namespace MimeMail

structure Session where
  current : Message := {}
  sent : Text := []
  mailbox : List Message := []

namespace Session

inductive Step where
  | read (depth : Nat) (raw : Bytes)
  | readSent (depth : Nat)
  | setUid (uid : Nat)
  | setFolder (folder : Text)
  | setFlags (symbols : List Text)
  | decode
  | renew
  | append (part : Text) (options : FilingOptions)
  | store
  | sort

inductive Answer where
  | message (message : Message)
  | uid (uid : Nat)
  | folder (folder : Text)
  | symbols (symbols : List Text)
  | content (content : Option Content)
  | header (text : Text) (header : Header)
  | request (request : AppendRequest)
  | count (n : Nat)
  | listing (messages : List Message)

def setCurrent (s : Session) (message : Message) : Session × Answer :=
  ({ s with current := message }, .message message)

variable [Charset.Library]

def step (s : Session) : Step → Except MailError (Session × Answer)
  | .read depth raw => (Message.ofBytes depth raw).map s.setCurrent
  | .readSent depth => (Message.ofBytes depth (Utf8.encode s.sent)).map s.setCurrent
  | .setUid uid => .ok ({ s with current.uid := uid }, .uid uid)
  | .setFolder folder => .ok ({ s with current.header.folder := folder }, .folder folder)
  | .setFlags symbols =>
    let flags := Flags.ofSymbols symbols
    .ok ({ s with current.flags := flags }, .symbols flags.symbols)
  | .decode =>
    let content := s.current.content.map Content.decode
    .ok ({ s with current.content := content }, .content content)
  | .renew =>
    let text := s.current.header.write
    (Header.ofBytes (Utf8.encode text)).map fun header =>
      ({ s with current.header := header }, .header text header)
  | .append part options =>
    let body := ((s.current.content.bind (·.get? part)).map Part.body).getD []
    let request := AppendRequest.make options s.current.header s.current.flags body
    .ok ({ s with sent := request.message }, .request request)
  | .store =>
    let mailbox := s.mailbox ++ [s.current]
    .ok ({ s with mailbox }, .count mailbox.length)
  | .sort =>
    let mailbox := Message.newestFirst s.mailbox
    .ok ({ s with mailbox }, .listing mailbox)

def run (s : Session) : List Step → List (Except MailError Answer)
  | [] => []
  | x :: steps =>
    match s.step x with
    | .ok (s', answer) => .ok answer :: run s' steps
    | .error e => .error e :: run s steps

end Session

end MimeMail
