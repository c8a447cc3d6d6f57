import MimeMail.Date.Instant
import MimeMail.Header.MediaType
import MimeMail.Number.Single

namespace MimeMail

def defaultEncoding : Text := "quoted-printable".toList

def defaultCharset : Text := "UTF-8".toList

def plainText : Text := "text/plain".toList

/-- The fields of a header that describe the body. Version 0 stands for mail that is not MIME. -/
structure Descriptor where
  version : Single := Single.zero
  mediaType : Text := []
  encoding : Text := defaultEncoding
  boundary : Text := []
  deriving DecidableEq

def Descriptor.isMultipart (d : Descriptor) : Bool := MediaType.namesMultipart d.mediaType

structure Header where
  size : Nat := 0
  folder : Text := []
  date : Instant := Instant.epoch
  subject : Text := []
  sender : Text := []
  receiver : Text := []
  spamScore : Nat := 0
  descriptor : Descriptor := {}
  deriving DecidableEq

namespace Header

def hasUnknownDate (h : Header) : Bool := h.date == Instant.epoch

def equals (h k : Header) : Bool :=
  h.descriptor.version.equals k.descriptor.version &&
    { h with descriptor.version := Single.zero } == { k with descriptor.version := Single.zero }

end Header

end MimeMail
