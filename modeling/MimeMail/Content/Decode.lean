import MimeMail.Charset.Basic
import MimeMail.Content.Basic
import MimeMail.Transfer.Base64
import MimeMail.Transfer.QuotedPrintable

namespace MimeMail

variable [Charset.Library]

namespace Part

def bytes? (mediaType : Text) (part : Part) : Option Bytes :=
  let encoding := Text.trim part.encoding
  if Text.same encoding "quoted-printable".toList then some (QuotedPrintable.decode part.body)
  else if Text.same encoding "base64".toList && (dropStart? "text/".toList mediaType).isSome then
    Base64.decode? (Text.words part.body).flatten
  else none

def decode (mediaType : Text) (part : Part) : Part :=
  match part.bytes? mediaType with
  | some bs =>
    { charset := defaultCharset
      encoding := "8bit".toList
      body := (Charset.decodeNamed? part.charset bs).getD (Utf8.decodeLossy bs) }
  | none => part

end Part

def Content.decode (content : Content) : Content := content.map Part.decode

end MimeMail
