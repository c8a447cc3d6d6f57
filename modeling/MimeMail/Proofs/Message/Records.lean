import MimeMail.Proofs.Content.LineBreaks
import MimeMail.Proofs.Message.Append

namespace MimeMail.Field

theorem ofLine?_return (line : Text) : ofLine? (line ++ ['\r']) = ofLine? line := by
  have hr : Text.isBlank '\r' = true := rfl
  rw [ofLine?, ofLine?]
  by_cases hc : ':' ∈ line
  · obtain ⟨name, value, rfl, hn⟩ := List.eq_append_cons_of_mem hc
    rw [List.append_assoc, List.cons_append, Text.cutAt_append_char _ hn,
      Text.cutAt_append_char _ hn]
    dsimp only
    rw [Text.trim_append_blank value hr]
  · have hnone : Text.cutAt [':'] line = none := by
      rw [Text.cutAt_eq_none_iff, List.singleton_infix_iff]
      exact hc
    have hreturn : Text.cutAt [':'] (line ++ ['\r']) = none := by
      rw [Text.cutAt_eq_none_iff, List.singleton_infix_iff]
      simpa using hc
    rw [hnone, hreturn]

theorem absorb_return (fields : List Field) (line : Text) :
    absorb fields (line ++ ['\r']) = if line = [] then fields else absorb fields line := by
  have hr : Text.isBlank '\r' = true := rfl
  cases line with
  | nil => rfl
  | cons c line =>
    have hf : isFolded (c :: line ++ ['\r']) = isFolded (c :: line) := rfl
    unfold absorb
    rw [hf, ofLine?_return, Text.trim_append_blank _ hr, if_neg (List.cons_ne_nil c line)]

theorem absorbLines_of_not_mem (fields : List Field) {p : Text} (hp : '\n' ∉ p) :
    absorbLines fields (Lines.ofText p) = if p = [] then fields else absorb fields p := by
  by_cases hn : p = []
  · subst hn
    rfl
  · rw [Lines.ofText_of_not_mem hn hp, absorbLines_cons]
    rfl

theorem absorb_dropBreak (fields : List Field) (p : Text) :
    (if Lines.dropBreak (p ++ ['\n']) = [] then fields
      else absorb fields (Lines.dropBreak (p ++ ['\n']))) =
      if p = [] then fields else absorb fields p := by
  by_cases hl : p.getLast? = some '\r'
  · obtain ⟨q, rfl⟩ := List.getLast?_eq_some_iff.mp hl
    have hq : Lines.dropBreak (q ++ ['\r'] ++ ['\n']) = q := by
      simpa [lineBreak] using Lines.dropBreak_append_lineBreak q
    rw [hq, absorb_return, if_neg (by simp : q ++ ['\r'] ≠ [])]
  · rw [Lines.dropBreak_newline hl]

theorem absorbLines_empty_line (fields : List Field) {breaks : Text}
    (hb : breaks = ['\n', '\n'] ∨ breaks = lineBreak ++ lineBreak) (t r : Text) :
    absorbLines fields (Lines.ofText (t ++ (breaks ++ r))) =
      absorbLines fields (Lines.ofText t) := by
  induction t using Lines.line_induction '\n' generalizing fields with
  | last p hp =>
    rw [absorbLines_of_not_mem fields hp]
    rcases hb with rfl | rfl
    · have hend (f : List Field) : absorbLines f (Lines.ofText ('\n' :: r)) = f :=
        absorbLines_newline f r
      have hline := absorbLines_line fields ('\n' :: r) hp
      rw [hend] at hline
      exact hline.trans (absorb_dropBreak fields p)
    · have hr : '\n' ∉ p ++ ['\r'] := by simpa using hp
      have he : p ++ (lineBreak ++ lineBreak ++ r) = (p ++ ['\r']) ++ '\n' :: (lineBreak ++ r) := by
        simp [lineBreak]
      have hd : Lines.dropBreak (p ++ ['\r'] ++ ['\n']) = p := by
        simpa [lineBreak] using Lines.dropBreak_append_lineBreak p
      rw [he, absorbLines_line fields _ hr, hd, absorbLines_lineBreak]
  | line p s hp ih =>
    rw [List.append_assoc, List.cons_append, absorbLines_line fields _ hp,
      absorbLines_line fields s hp, ih]

theorem ofText_empty_line {breaks : Text}
    (hb : breaks = ['\n', '\n'] ∨ breaks = lineBreak ++ lineBreak) (t r : Text) :
    ofText (t ++ (breaks ++ r)) = ofText t :=
  congrArg List.reverse (absorbLines_empty_line [] hb t r)

end MimeMail.Field

namespace MimeMail.Header

open Multipart (crlf)

theorem ofBytes_empty_line [Charset.Library] {head breaks more : Bytes} (hne : head ≠ [])
    (hhead : (Utf8.decode? head).isSome = true) (hmore : (Utf8.decode? more).isSome = true)
    (hb : breaks = [0x0A, 0x0A] ∨ breaks = crlf ++ crlf) :
    ofBytes (head ++ breaks ++ more) = ofBytes head := by
  obtain ⟨t, ht⟩ := Option.isSome_iff_exists.mp hhead
  obtain ⟨r, hr⟩ := Option.isSome_iff_exists.mp hmore
  obtain rfl := Utf8.decode?_eq_some_iff.mp ht
  obtain rfl := Utf8.decode?_eq_some_iff.mp hr
  obtain ⟨b, hbt, rfl⟩ : ∃ b : Text, (b = ['\n', '\n'] ∨ b = lineBreak ++ lineBreak) ∧
      Utf8.encode b = breaks := by
    rcases hb with rfl | rfl
    · exact ⟨_, .inl rfl, rfl⟩
    · exact ⟨_, .inr rfl, rfl⟩
  have htext : Utf8.encode t ++ Utf8.encode b ++ Utf8.encode r = Utf8.encode (t ++ (b ++ r)) := by
    simp
  have htn : t ≠ [] := fun h => hne (Utf8.encode_eq_nil_iff.mpr h)
  rw [htext, ofBytes_of_ne_nil hne, ofBytes_of_ne_nil (by simp [Utf8.encode_eq_nil_iff, htn]),
    Charset.decodeRaw_encode, Charset.decodeRaw_encode, Text.withoutMark_append _ htn,
    FieldMap.ofText, FieldMap.ofText, Field.ofText_empty_line hbt]

end MimeMail.Header

namespace MimeMail.Entity

open Multipart (crlf)

theorem breaks_of_split {raw head breaks body : Bytes} (h : split raw = (head, some body))
    (hr : raw = head ++ breaks ++ body) : breaks = [0x0A, 0x0A] ∨ breaks = crlf ++ crlf := by
  rcases eq_of_split h with ⟨hb, -⟩ | ⟨b, hb, hraw⟩
  · cases hb
  · cases hb
    rw [hr, List.append_assoc] at hraw
    rcases hraw with hraw | hraw
    · have he : breaks ++ body = [0x0A, 0x0A] ++ body := List.append_cancel_left hraw
      exact .inl (List.append_cancel_right he)
    · have he : breaks ++ body = crlf ++ crlf ++ body := by
        rw [List.append_cancel_left hraw, List.append_assoc]
      exact .inr (List.append_cancel_right he)

end MimeMail.Entity

namespace MimeMail.Message

theorem ofRecord_of_header [Charset.Library] {raw body : Bytes} {h : Header} {record : Record}
    (depth : ℕ) (folder : Text) (hraw : record.header = some raw) (hh : Header.ofBytes raw = .ok h)
    (hbody : record.body = some body) (full : Bool) :
    ofRecord depth folder full record =
      .ok { uid := record.uid
            header := { h with size := record.size, folder }
            flags := Flags.ofSymbols record.flags
            content := if full then some (Content.ofBody depth h.descriptor body) else none } := by
  rw [ofRecord, hraw, hbody]
  dsimp only [Option.elim_some, bind, Except.bind]
  rw [hh]
  cases full <;> rfl

theorem ofRecord_eq_ofBytes [Charset.Library] (depth : ℕ) (folder : Text) {raw head body : Bytes}
    {record : Record} (hs : Entity.split raw = (head, some body)) (hne : head ≠ [])
    (hu : (Utf8.decode? head).isSome = true) (hbody : record.body = some body)
    (hheader : record.header = some head ∨ ∃ breaks more, raw = head ++ breaks ++ body ∧
      (Utf8.decode? more).isSome = true ∧ record.header = some (head ++ breaks ++ more)) :
    ∃ m full overview content, ofBytes depth raw = .ok m ∧
      ofRecord depth folder true record = .ok full ∧
      ofRecord depth folder false record = .ok overview ∧
      m.content = some content ∧ full.content = some content ∧
      full.header = { m.header with size := record.size, folder } ∧
      overview = { full with content := none } := by
  have hh := Header.ofBytes_of_ne_nil hne
  -- Whatever of it the mailbox delivers, the header reads like the one of the message.
  obtain ⟨delivered, hd, heq⟩ : ∃ delivered, record.header = some delivered ∧
      Header.ofBytes delivered = Header.ofBytes head := by
    rcases hheader with hd | ⟨breaks, more, hr, hm, hd⟩
    · exact ⟨head, hd, rfl⟩
    · exact ⟨_, hd, Header.ofBytes_empty_line hne hu hm (Entity.breaks_of_split hs hr)⟩
  have hread := ofRecord_of_header depth folder hd (heq.trans hh) hbody
  exact ⟨_, _, _, _, ofBytes_of_split depth hs hh, hread true, hread false, rfl, rfl, rfl, rfl⟩

def delivered : Record where
  uid := 7
  header := some (Utf8.encode "\uFEFFSubject: a\n b\r\n\nTo: c".toList)
  body := some (Utf8.encode "To: c\n".toList)

theorem ofRecord_eq_ofBytes_return :
    ∃ m full, ofBytes 10 (Utf8.encode "\uFEFFSubject: a\n b\r\n\nTo: c\n".toList) = .ok m ∧
      ofRecord 10 "INBOX".toList true delivered = .ok full ∧ full.content = m.content ∧
      full.header = { m.header with size := 0, folder := "INBOX".toList } := by
  have hs : Entity.split (Utf8.encode "\uFEFFSubject: a\n b\r\n\nTo: c\n".toList) =
      (Utf8.encode "\uFEFFSubject: a\n b\r".toList, some (Utf8.encode "To: c\n".toList)) := by
    decide +kernel
  have hbody : delivered.body = some (Utf8.encode "To: c\n".toList) := rfl
  obtain ⟨m, full, -, content, hm, hf, -, hc, hd, hh, -⟩ :=
    ofRecord_eq_ofBytes 10 "INBOX".toList hs (by decide +kernel) (by decide +kernel) hbody
      (.inr ⟨[0x0A, 0x0A], Utf8.encode "To: c".toList, by decide +kernel, by decide +kernel,
        by decide +kernel⟩)
  exact ⟨m, full, hm, hf, hd.trans hc.symm, hh⟩

end MimeMail.Message
