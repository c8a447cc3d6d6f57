import MimeMail.Content.Read
import MimeMail.Message.Flags

namespace MimeMail

structure Message where
  uid : Nat := 0
  header : Header := {}
  flags : Flags := {}
  content : Option Content := none
  deriving DecidableEq

namespace Message

variable [Charset.Library]

def topSize : Nat := 0xFFFFFFFF

def ofBytes (depth : Nat) (raw : Bytes) : Except MailError Message :=
  let (head, body?) := Entity.split raw
  (Header.ofBytes head).map fun header =>
    { header := { header with size := min raw.length topSize }
      content := some (Content.ofBody depth header.descriptor (body?.getD [])) }

structure Record where
  uid : Nat := 0
  size : Nat := 0
  header : Option Bytes := none
  body : Option Bytes := none
  flags : List Text := []

def ofRecord (depth : Nat) (folder : Text) (full : Bool) (record : Record) :
    Except MailError Message := do
  let raw ← record.header.elim (.error (.missingHeader record.uid)) .ok
  let header ← Header.ofBytes raw
  let content ←
    if full then (Content.ofBody? depth header.descriptor record.body).map some else .ok none
  .ok {
    uid := record.uid
    header := { header with size := record.size, folder }
    flags := Flags.ofSymbols record.flags
    content }

def newestFirst (messages : List Message) : List Message :=
  messages.mergeSort fun m n => !n.header.date.isAfter m.header.date

end Message

end MimeMail
