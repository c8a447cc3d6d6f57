import MimeMail.Message.Append
import MimeMail.Message.Basic
import MimeMail.Proofs.Content.Entities
import MimeMail.Proofs.Header.RoundTrip

namespace MimeMail.Descriptor

theorem isReadable_of_fields {d : Descriptor} (h : d = {} ∨ ∃ fields, d = ofFields fields) :
    d.IsReadable := by
  rcases h with rfl | ⟨fields, rfl⟩
  · exact isReadable_default
  · exact isReadable_ofFields fields

theorem rewritten_default : rewritten {} = {} := rfl

end MimeMail.Descriptor

namespace MimeMail.Header

open Multipart (crlf)

theorem isBlock_write {h : Header} (hd : h.descriptor.IsReadable) : Lines.IsBlock h.write := by
  have hne : h.lines ≠ [] := by simp [lines_eq, shownLines]
  rw [write_eq]
  exact Lines.IsBlock.join hne (Field.isBlock_of_writes (writes_lines hd.mediaType))

theorem split_writeMessage {h : Header} (hd : h.descriptor.IsReadable) (content : Text) :
    Entity.split (Utf8.encode (h.writeMessage content)) =
      (Utf8.encode h.write, some (Utf8.encode (content ++ lineBreak))) := by
  have hb : Utf8.encode lineBreak = crlf := rfl
  have hm : Utf8.encode (h.writeMessage content) =
      Utf8.encode h.write ++ crlf ++ crlf ++ Utf8.encode (content ++ lineBreak) := by
    simp [writeMessage, hb]
  rw [hm, Entity.split_block (isBlock_write hd)]

end MimeMail.Header

namespace MimeMail.Text

theorem withoutMark_append_lineBreak (t : Text) :
    withoutMark (t ++ lineBreak) = withoutMark t ++ lineBreak := by
  by_cases h : t = []
  · rw [h]
    rfl
  · exact withoutMark_append lineBreak h

end MimeMail.Text

namespace MimeMail.Content

theorem parts_single (mediaType encoding body : Text) :
    (single mediaType encoding (Utf8.encode body)).parts =
      [(mediaType, { encoding, body := Text.withoutMark body })] := by
  rw [single, Charset.decodeRaw_encode]
  rfl

theorem ofBody_default [Charset.Library] (depth : ℕ) (body : Bytes) :
    ofBody depth {} body = single plainText defaultEncoding body := rfl

end MimeMail.Content

namespace MimeMail.Message

theorem ofBytes_of_split [Charset.Library] {raw head : Bytes} {body? : Option Bytes} {r : Header}
    (depth : ℕ) (hs : Entity.split raw = (head, body?)) (hr : Header.ofBytes head = .ok r) :
    ofBytes depth raw =
      .ok { header := { r with size := min raw.length topSize }
            content := some (Content.ofBody depth r.descriptor (body?.getD [])) } := by
  rw [ofBytes, hs]
  dsimp only
  rw [hr]
  rfl

theorem append_framed [Charset.Library] (content : Text) :
    (∀ h : Header, (h.descriptor = {} ∨ ∃ fields, h.descriptor = Descriptor.ofFields fields) →
      Entity.split (Utf8.encode (h.writeMessage content)) =
        (Utf8.encode h.write, some (Utf8.encode (content ++ lineBreak)))) ∧
      ∀ (filing options : FilingOptions) (sender : Text) (receivers : List Text) (subject : Text)
        (date : Instant) (flags : Flags) (depth : ℕ),
        let h := sentHeader filing sender receivers subject date
        let raw := Utf8.encode (AppendRequest.make options h flags content).message
        ∃ r body, Header.ofBytes (Utf8.encode h.write) = .ok r ∧
          ofBytes depth raw =
            .ok { header := { r with size := min raw.length topSize }, content := some body } ∧
          body.parts = [(plainText, { body := Text.withoutMark content ++ lineBreak })] := by
  constructor
  · intro h hm
    exact Header.split_writeMessage (Descriptor.isReadable_of_fields hm) content
  · intro filing options sender receivers subject date flags depth h raw
    have hd : h.descriptor.IsReadable := Descriptor.isReadable_default
    have hr := Header.ofBytes_write_ofFields hd
    have hdescriptor : (Header.ofFields (FieldMap.ofFields h.fields)).descriptor = {} :=
      (Header.descriptor_fields hd).trans Descriptor.rewritten_default
    refine ⟨_, _, hr, ofBytes_of_split depth (Header.split_writeMessage hd content) hr, ?_⟩
    rw [hdescriptor, Content.ofBody_default, Option.getD_some, Content.parts_single,
      Text.withoutMark_append_lineBreak]

theorem append_framed_blank_lines :
    Entity.split (Utf8.encode (Header.writeMessage
        { Header.quoted with subject := "a\r\n\r\nBcc: b".toList } "\n\nTo: c\r\n\r\n".toList)) =
        (Utf8.encode (Header.write { Header.quoted with subject := "a\r\n\r\nBcc: b".toList }),
          some (Utf8.encode "\n\nTo: c\r\n\r\n\r\n".toList)) ∧
      ∃ m body, ofBytes 1 (Utf8.encode (AppendRequest.make {}
          (sentHeader {} "a\n\nb".toList [] [] Instant.epoch) sentFlags
          "\uFEFF\uFEFF\n\nc".toList).message) = .ok m ∧
        m.content = some body ∧
        body.parts = [(plainText, { body := "\uFEFF\n\nc\r\n".toList })] := by
  constructor
  · exact (append_framed "\n\nTo: c\r\n\r\n".toList).1
      { Header.quoted with subject := "a\r\n\r\nBcc: b".toList }
      (.inr ⟨_, Header.ofFields_quoted.symm⟩)
  · obtain ⟨r, body, -, hm, hb⟩ := (append_framed "\uFEFF\uFEFF\n\nc".toList).2 {} {} "a\n\nb".toList
      [] [] Instant.epoch sentFlags 1
    exact ⟨_, body, hm, rfl, hb⟩

end MimeMail.Message
