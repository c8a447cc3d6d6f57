import MimeMail.Proofs.Content.LineBreaks
import MimeMail.Proofs.Message.Append

namespace MimeMail.Header

open Utf8 (IsUnix withReturns)

theorem ofBytes_withReturns [Charset.Library] {head : Bytes} (h : IsUnix head) :
    ofBytes (withReturns head) = ofBytes head := by
  have he : (withReturns head).isEmpty = head.isEmpty := by
    rw [Bool.eq_iff_iff, List.isEmpty_iff, List.isEmpty_iff]
    exact Lines.withReturns_eq_nil_iff
  rw [ofBytes, ofBytes, FieldMap.ofBytes, FieldMap.ofBytes, he,
    Entity.fields_decodeRaw_withReturns h]

end MimeMail.Header

namespace MimeMail.Message

open Utf8 (IsUnix withReturns)

structure SameText (m other : Message) : Prop where
  uid : other.uid = m.uid
  flags : other.flags = m.flags
  header : { other.header with size := m.header.size } = m.header
  content : ∃ c d, m.content = some c ∧ other.content = some d ∧
    List.Forall₂ Content.SameText c.parts d.parts

theorem ofBytes_error [Charset.Library] {raw head : Bytes} {body? : Option Bytes} {e : MailError}
    (depth : ℕ) (hs : Entity.split raw = (head, body?)) (he : Header.ofBytes head = .error e) :
    ofBytes depth raw = .error e := by
  rw [ofBytes, hs]
  dsimp only
  rw [he]
  rfl

theorem sameText_ofBytes [Charset.Library] (depth : ℕ) {raw : Bytes}
    (hu : (Utf8.decode? raw).isSome = true) (hr : 0x0D ∉ raw) :
    (∀ e, ofBytes depth (withReturns raw) = .error e ↔ ofBytes depth raw = .error e) ∧
      ∀ m, ofBytes depth raw = .ok m →
        ∃ other, ofBytes depth (withReturns raw) = .ok other ∧ SameText m other := by
  obtain ⟨hhead, hbody⟩ := Entity.isUnix_split (Utf8.isUnix_of_decode? hu hr)
  have hsplit := Entity.split_withReturns hr
  have hheader := Header.ofBytes_withReturns hhead
  cases hh : Header.ofBytes (Entity.split raw).1 with
  | error e =>
    rw [ofBytes_error depth rfl hh, ofBytes_error depth hsplit (hheader.trans hh)]
    exact ⟨fun _ => Iff.rfl, by rintro m ⟨⟩⟩
  | ok header =>
    rw [ofBytes_of_split depth rfl hh, ofBytes_of_split depth hsplit (hheader.trans hh)]
    refine ⟨fun e => ?_, fun m hm => ?_⟩
    · constructor
      · rintro ⟨⟩
      · rintro ⟨⟩
    · cases hm
      refine ⟨_, rfl, rfl, rfl, rfl, _, _, rfl, rfl, ?_⟩
      cases hb : (Entity.split raw).2 with
      | none => exact Content.sameText_ofBody depth _ .nil
      | some body => exact Content.sameText_ofBody depth _ (hbody body hb)

def twoParts : Bytes :=
  Utf8.encode ("MIME-Version: 1\nContent-Type: multipart/mixed; boundary=c\n\n" ++
    "--c\nContent-Type: text/html; charset=utf8\n\n\né\n\n--c\n\nx\n\n--c--").toList

theorem sameText_ofBytes_twoParts :
    ∃ m other, ofBytes 10 twoParts = .ok m ∧ ofBytes 10 (withReturns twoParts) = .ok other ∧
      SameText m other ∧
      m.content.map (·.parts) = some
        [("text/html".toList, { charset := "utf8".toList, body := "\né\n".toList }),
          (plainText, { body := "x\n".toList })] ∧
      Charset.IsUtf8IfKnown "utf8".toList ∧ Charset.IsUtf8IfKnown defaultCharset := by
  have hread : (ofBytes 10 twoParts).map (·.content.map (·.parts)) = .ok (some
      [("text/html".toList, { charset := "utf8".toList, body := "\né\n".toList }),
        (plainText, { body := "x\n".toList })]) := by
    decide +kernel
  have hu : (Utf8.decode? twoParts).isSome = true := by
    rw [twoParts, Utf8.decode?_encode]
    rfl
  have hr : 0x0D ∉ twoParts := by decide +kernel
  cases hm : ofBytes 10 twoParts with
  | error e =>
    rw [hm] at hread
    cases hread
  | ok m =>
    obtain ⟨other, ho, hsame⟩ := (sameText_ofBytes 10 hu hr).2 m hm
    rw [hm] at hread
    exact ⟨m, other, rfl, ho, hsame, Except.ok.inj hread, by decide +kernel, by decide +kernel⟩

end MimeMail.Message
