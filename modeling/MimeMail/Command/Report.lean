import MimeMail.Message.Basic
import MimeMail.Text.Size
import MimeMail.Text.Width

namespace MimeMail

namespace Report

def line (t : Text) : Text := t ++ ['\n']

def dateText (h : Header) : Text := if h.hasUnknownDate then ['-'] else h.date.minuteText

def labelled (label : String) (value : Text) : Text :=
  line ("  ".toList ++ Text.padRight ' ' 12 label.toList ++ ' ' :: value)

def header (h : Header) : Text :=
  labelled "Date" (dateText h) ++ labelled "From" h.sender ++ labelled "To" h.receiver ++
    labelled "Subject" h.subject ++ labelled "Size" (Text.ofSize h.size) ++
    labelled "Spam score" (Digits.ofNat h.spamScore)

def descriptor (d : Descriptor) : Text :=
  if d.version.isPositive then
    labelled "MIME" (d.version.tenths ++ ' ' :: d.mediaType ++ " (".toList ++ d.encoding ++ [')'])
  else []

def flags (f : Flags) : Text :=
  if f.symbols.isEmpty then [] else labelled "Flags" (Text.join [' '] f.symbols)

def part (mediaType : Text) (p : Part) : Text :=
  let size := Text.ofSize (Utf8.encode p.body).length
  line [] ++
    line ("  --- ".toList ++ mediaType ++ " (".toList ++
      Text.join [',', ' '] [p.charset, p.encoding, size] ++ ") ---".toList) ++
    line p.body

def message (m : Message) : Text :=
  let parts := (m.content.map Content.parts).getD []
  line [] ++ header m.header ++ descriptor m.header.descriptor ++ flags m.flags ++
    parts.flatMap (fun (mediaType, p) => part mediaType p) ++ line []

def senderColumns : Nat := 25

def subjectColumns : Nat := 40

def cell (w : Widths) (columns : Nat) (t : Text) : Text := w.fill columns (w.truncate (columns - 1) t)

def row (w : Widths) (h : Header) : Text :=
  line ("  ".toList ++ Text.join [' '] [Text.padRight ' ' 17 (dateText h),
    cell w senderColumns h.sender, cell w subjectColumns h.subject,
    Text.padLeft ' ' 8 (Text.ofSize h.size)])

def heading : Text :=
  line ("  ".toList ++ Text.join [' '] [Text.padRight ' ' 17 "Date".toList,
    Text.padRight ' ' senderColumns "From".toList, Text.padRight ' ' subjectColumns "Subject".toList,
    Text.padLeft ' ' 8 "Size".toList]) ++
    line ("  ".toList ++ List.replicate 93 '-')

def overview (w : Widths) (messages : List Message) : Text :=
  line [] ++ line ("  ".toList ++ Digits.ofNat messages.length ++ " message(s)".toList) ++ line [] ++
    if messages.isEmpty then []
    else heading ++ messages.flatMap (fun m => row w m.header) ++ line []

end Report

end MimeMail
