import MimeMail.Date.Read
import MimeMail.Header.Basic
import MimeMail.Header.EncodedWord
import MimeMail.Header.SpamScore

namespace MimeMail

variable [Charset.Library]

namespace FieldMap

def shown (fields : FieldMap) (name : Text) : Text :=
  match fields.first? name with
  | some (' ' :: value) => EncodedWord.decode value
  | some value => EncodedWord.decode value
  | none => []

def date (fields : FieldMap) : Instant :=
  ((fields.first? "date".toList).bind Instant.read?).getD Instant.epoch

def mediaType? (fields : FieldMap) : Option MediaType :=
  (fields.first? "content-type".toList).bind fun value => (MediaType.ofText value).toOption

end FieldMap

namespace Descriptor

def readVersion (t : Text) : Single :=
  match Single.read? (Text.trim (t.takeWhile (· != '('))) with
  | some x => if x.isFinite && x.isNonneg then x else Single.zero
  | none => Single.zero

def ofFields (fields : FieldMap) : Descriptor :=
  let mediaType := fields.mediaType?
  let boundary := (mediaType.filter MediaType.isMultipart).bind (·.param? "boundary".toList)
  let encoding := fields.first? "content-transfer-encoding".toList
  let version := fields.first? "mime-version".toList
  { version := (version.map readVersion).getD Single.zero
    mediaType := (mediaType.map MediaType.essence).getD []
    encoding := (encoding.map Text.trim).getD defaultEncoding
    boundary := boundary.getD [] }

end Descriptor

namespace Header

def ofFields (fields : FieldMap) : Header where
  date := fields.date
  subject := fields.shown "subject".toList
  sender := fields.shown "from".toList
  receiver := fields.shown "to".toList
  spamScore := SpamScore.ofFields fields
  descriptor := Descriptor.ofFields fields

def ofBytes (raw : Bytes) : Except MailError Header := (FieldMap.ofBytes raw).map ofFields

end Header

end MimeMail
