import MimeMail.Header.Address
import MimeMail.Header.Basic
import MimeMail.Header.SpamScore

/-!
Writing of headers. The fields about the body come first, and only for MIME mail. The boundary is
written for multipart types and the charset for plain text; the default transfer encoding is left
out.
-/

namespace MimeMail

def lineBreak : Text := ['\r', '\n']

namespace MediaType

def quote (t : Text) : Text :=
  '"' :: (Text.oneLine t).flatMap (fun c => if c == '"' || c == '\\' then ['\\', c] else [c]) ++
    ['"']

end MediaType

namespace Descriptor

def identityEncodings : List Text := ["7bit".toList, "8bit".toList, "binary".toList]

def writtenEncoding? (d : Descriptor) : Option Text :=
  let encoding := Text.oneLine (Text.trim d.encoding)
  if encoding.isEmpty || Text.same encoding defaultEncoding then none
  else if d.isMultipart && !identityEncodings.any (Text.same encoding) then none
  else some encoding

def writtenParams (d : Descriptor) : Text :=
  if d.isMultipart then "\r\n\tboundary=".toList ++ MediaType.quote d.boundary
  else if d.mediaType == plainText then " charset=".toList ++ MediaType.quote defaultCharset
  else []

def lines (d : Descriptor) : List Text :=
  if d.version.isPositive then
    ["MIME-Version: ".toList ++ d.version.tenths] ++
      (if d.mediaType.isEmpty then []
        else ["Content-Type: ".toList ++ d.mediaType ++ ';' :: d.writtenParams]) ++
      (d.writtenEncoding?.map ("Content-Transfer-Encoding: ".toList ++ ·)).toList
  else []

end Descriptor

namespace Header

def lines (h : Header) : List Text :=
  h.descriptor.lines ++
    ["Date: ".toList ++ h.date.headerText,
      "To: ".toList ++ Mailbox.encodeList h.receiver,
      "From: ".toList ++ Mailbox.encodeList h.sender,
      "Subject: ".toList ++ EncodedWord.encode (Text.oneLine h.subject),
      SpamScore.fieldName ++ ": ".toList ++ Digits.ofNat h.spamScore]

def write (h : Header) : Text := Text.trim (Text.join lineBreak h.lines)

end Header

end MimeMail
