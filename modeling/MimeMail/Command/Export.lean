import MimeMail.Json
import MimeMail.Message.Basic

namespace MimeMail

def Json.ofNat (n : Nat) : Json := .number (Digits.ofNat n)

def Json.ofFields (fields : List (String × Json)) : Json :=
  .object (fields.map fun (name, value) => (name.toList, value))

def Descriptor.toJson (d : Descriptor) : Json :=
  .ofFields [
    ("mime_version", .number d.version.shortest),
    ("content_type", .text d.mediaType),
    ("transfer_encoding", .text d.encoding),
    ("multipart_boundary", .text d.boundary)]

def Header.toJson (h : Header) : Json :=
  .ofFields [
    ("size", .ofNat h.size),
    ("folder", .text h.folder),
    ("date", .text h.date.timestamp),
    ("subject", .text h.subject),
    ("sender", .text h.sender),
    ("receiver", .text h.receiver),
    ("spam_indicator", .ofNat h.spamScore),
    ("mime", h.descriptor.toJson)]

def Flags.toJson (f : Flags) : Json :=
  .ofFields [
    ("seen", .boolean f.seen),
    ("deleted", .boolean f.deleted),
    ("answered", .boolean f.answered),
    ("flagged", .boolean f.flagged),
    ("draft", .boolean f.draft),
    ("recent", .boolean f.recent)]

def Part.toJson (p : Part) : Json :=
  .ofFields [("charset", .text p.charset), ("encoding", .text p.encoding), ("body", .text p.body)]

def Content.toJson (content : Content) : Json :=
  .object (content.parts.map fun (mediaType, p) => (mediaType, p.toJson))

def Message.toJson (m : Message) : Json :=
  .ofFields [
    ("uid", .ofNat m.uid),
    ("header", m.header.toJson),
    ("flags", m.flags.toJson),
    ("content", (m.content.map Content.toJson).getD .null)]

end MimeMail
