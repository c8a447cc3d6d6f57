import MimeMail.Header.Write
import MimeMail.Message.Flags

namespace MimeMail

structure FilingOptions where
  sentFolder : Text := "Sent".toList
  mailbox : Text := "INBOX".toList
  delimiter : Text := ".".toList
  deriving DecidableEq

structure AppendRequest where
  mailbox : Text
  flags : List Text
  date : Instant
  message : Text
  deriving DecidableEq

def mailboxPath (mailbox delimiter folder : Text) : Text :=
  if folder.isEmpty then mailbox else mailbox ++ delimiter ++ folder

def Header.writeMessage (h : Header) (content : Text) : Text :=
  h.write ++ lineBreak ++ lineBreak ++ content ++ lineBreak

namespace AppendRequest

def make (options : FilingOptions) (h : Header) (flags : Flags) (content : Text) : AppendRequest where
  mailbox := mailboxPath options.mailbox options.delimiter h.folder
  flags := flags.symbols
  date := h.date
  message := h.writeMessage content

end AppendRequest

def sentHeader (options : FilingOptions) (sender : Text) (receivers : List Text) (subject : Text)
    (date : Instant) : Header where
  folder := options.sentFolder
  date := date
  subject := subject
  sender := sender
  receiver := Text.join [',', ' '] receivers

def sentFlags : Flags where
  seen := true

end MimeMail
