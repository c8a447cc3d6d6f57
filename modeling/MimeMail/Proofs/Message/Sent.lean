import MimeMail.Proofs.Content.Leaves
import MimeMail.Proofs.Message.Append

namespace MimeMail.Content

theorem decode_single [Charset.Library] (encoding body : Text) :
    (single plainText encoding (Utf8.encode body)).decode.parts =
      [(plainText, Part.decode plainText { encoding, body := Text.withoutMark body })] := by
  rw [decode, map]
  dsimp only
  rw [parts_single]
  rfl

end MimeMail.Content

namespace MimeMail.Message

open QuotedPrintable (IsVerbatim)

theorem ofBytes_writeMessage [Charset.Library] {h : Header} (hd : h.descriptor = {})
    (content : Text) (depth : ℕ) :
    ∃ m, ofBytes depth (Utf8.encode (h.writeMessage content)) = .ok m ∧
      m.content =
        some (Content.single plainText defaultEncoding (Utf8.encode (content ++ lineBreak))) := by
  have hr : h.descriptor.IsReadable := Descriptor.isReadable_of_fields (.inl hd)
  have hdescriptor : (Header.ofFields (FieldMap.ofFields h.fields)).descriptor = {} := by
    refine (Header.descriptor_fields hr).trans ?_
    rw [hd, Descriptor.rewritten_default]
  have hm := ofBytes_of_split depth (Header.split_writeMessage hr content)
    (Header.ofBytes_write_ofFields hr)
  rw [hdescriptor, Content.ofBody_default] at hm
  exact ⟨_, hm, rfl⟩

theorem decode_writeMessage [Charset.Library] {h : Header} (hd : h.descriptor = {})
    (content : Text) (depth : ℕ) :
    ∃ m body, ofBytes depth (Utf8.encode (h.writeMessage content)) = .ok m ∧
      m.content = some body ∧
      body.decode.parts = [(plainText, { encoding := "8bit".toList
                                         body := Utf8.decodeLossy (QuotedPrintable.decode
                                           (Text.withoutMark content ++ lineBreak)) })] := by
  obtain ⟨m, hm, hc⟩ := ofBytes_writeMessage hd content depth
  refine ⟨m, _, hm, hc, ?_⟩
  have hq := Part.decode_quotedPrintable plainText defaultCharset
    (Text.withoutMark content ++ lineBreak)
  rw [defaultCharset, Charset.decodeNamed?_utf8, Option.getD_some] at hq
  rw [Content.decode_single, Text.withoutMark_append_lineBreak]
  exact congrArg (fun part => [(plainText, part)]) hq

theorem sent_displayed [Charset.Library] (filing options : FilingOptions) (sender : Text)
    (receivers : List Text)
    (subject : Text) (date : Instant) (flags : Flags) (depth : ℕ) {content : Text}
    (hmark : content.head? ≠ some '\uFEFF') :
    ∃ m body text, ofBytes depth (Utf8.encode (AppendRequest.make options
        (sentHeader filing sender receivers subject date) flags content).message) = .ok m ∧
      m.content = some body ∧
      body.decode.parts = [(plainText, { encoding := "8bit".toList, body := text })] ∧
      text = Utf8.decodeLossy (QuotedPrintable.decode (content ++ lineBreak)) ∧
      (text = content ++ lineBreak ↔ IsVerbatim (content ++ lineBreak)) := by
  have hd : (sentHeader filing sender receivers subject date).descriptor = {} := rfl
  have hlast : (content ++ lineBreak).getLast? = some '\n' := by simp [lineBreak]
  obtain ⟨m, body, hm, hb, hdecode⟩ := decode_writeMessage hd content depth
  rw [Text.withoutMark_eq_self hmark] at hdecode
  exact ⟨m, body, _, hm, hb, hdecode, rfl, QuotedPrintable.decode_eq_iff hlast⟩

theorem sent_displayed_verbatim :
    ∃ m body, ofBytes 10 (Utf8.encode (AppendRequest.make {} (sentHeader {} "a".toList
        ["b".toList] "c".toList Instant.epoch) sentFlags
        "a = b\r\n\r\n x=y1 =1g".toList).message) = .ok m ∧ m.content = some body ∧
      body.decode.parts = [(plainText, { encoding := "8bit".toList
                                         body := "a = b\r\n\r\n x=y1 =1g\r\n".toList })] := by
  have hmark : "a = b\r\n\r\n x=y1 =1g".toList.head? ≠ some '\uFEFF' := by decide
  obtain ⟨m, body, text, hm, hb, hparts, -, htext⟩ := sent_displayed {} {} "a".toList ["b".toList]
    "c".toList Instant.epoch sentFlags 10 hmark
  have hv : IsVerbatim ("a = b\r\n\r\n x=y1 =1g".toList ++ lineBreak) := by decide +kernel
  rw [htext.mpr hv] at hparts
  exact ⟨m, body, hm, hb, hparts⟩

theorem sent_changed :
    ∃ m body, ofBytes 10 (Utf8.encode (AppendRequest.make {} (sentHeader {} "a".toList ["b".toList]
        "c".toList Instant.epoch) sentFlags "Grüße".toList).message) = .ok m ∧
      m.content = some body ∧
      (body.decode.get? plainText).map Part.body ≠ some ("Grüße".toList ++ lineBreak) := by
  have hd : (sentHeader {} "a".toList ["b".toList] "c".toList Instant.epoch).descriptor = {} := rfl
  obtain ⟨m, body, hm, hb, hdecode⟩ := decode_writeMessage hd "Grüße".toList 10
  refine ⟨m, body, hm, hb, ?_⟩
  rw [Content.get?, hdecode]
  decide +kernel

end MimeMail.Message
