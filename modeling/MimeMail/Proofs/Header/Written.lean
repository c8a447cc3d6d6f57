import MimeMail.Header.Read
import MimeMail.Proofs.Date.HeaderText
import MimeMail.Proofs.Header.Addresses
import MimeMail.Proofs.Header.Descriptors
import MimeMail.Proofs.Header.SpamScores

namespace MimeMail.Header

def shownFields (h : Header) : List Field :=
  [⟨"date".toList, h.date.headerText⟩,
    ⟨"to".toList, Text.trim (Mailbox.encodeList h.receiver)⟩,
    ⟨"from".toList, Text.trim (Mailbox.encodeList h.sender)⟩,
    ⟨"subject".toList, Text.trim (EncodedWord.encode (Text.oneLine h.subject))⟩,
    ⟨"x-gmx-antispam".toList, Digits.ofNat h.spamScore⟩]

def fields (h : Header) : List Field := h.descriptor.fields ++ h.shownFields

def shownLines (h : Header) : List Text :=
  ["Date: ".toList ++ h.date.headerText,
    "To: ".toList ++ Mailbox.encodeList h.receiver,
    "From: ".toList ++ Mailbox.encodeList h.sender,
    "Subject: ".toList ++ EncodedWord.encode (Text.oneLine h.subject),
    SpamScore.fieldName ++ ": ".toList ++ Digits.ofNat h.spamScore]

theorem lines_eq (h : Header) : h.lines = h.descriptor.lines ++ h.shownLines := rfl

theorem writes_shownLines (h : Header) :
    List.Forall₂ Field.Writes h.shownLines h.shownFields := by
  have hdate : Field.IsName "Date".toList "date".toList := ⟨by simp, by simp, rfl, rfl, by simp⟩
  have hto : Field.IsName "To".toList "to".toList := ⟨by simp, by simp, rfl, rfl, by simp⟩
  have hfrom : Field.IsName "From".toList "from".toList := ⟨by simp, by simp, rfl, rfl, by simp⟩
  have hsubject : Field.IsName "Subject".toList "subject".toList :=
    ⟨by simp, by simp, rfl, rfl, by simp⟩
  have hspam : Field.IsName "X-GMX-Antispam".toList "x-gmx-antispam".toList :=
    ⟨by simp, by simp, rfl, rfl, by simp⟩
  have hdigits := Digits.isDigit_ofNat h.spamScore
  have hnumber : Text.IsTrimmed (Digits.ofNat h.spamScore) :=
    Text.isTrimmed_of_no_blank fun c hc => Digits.isBlank_of_isDigit (hdigits c hc)
  refine .cons ?_ (.cons ?_ (.cons ?_ (.cons ?_ (.cons ?_ .nil))))
  · have hw := Field.writes_trimmed hdate h.date.isLine_headerText h.date.isTrimmed_headerText
    exact hw
  · exact Field.writes_line hto (Mailbox.isLine_encodeList _)
  · exact Field.writes_line hfrom (Mailbox.isLine_encodeList _)
  · exact Field.writes_line hsubject (EncodedWord.isLine_encode (Text.isLine_oneLine _))
  · have hw := Field.writes_trimmed hspam (Digits.isLine_of_isDigit hdigits) hnumber
    exact hw

theorem writes_lines {h : Header}
    (hd : h.descriptor.mediaType = [] ∨ MediaType.IsEssence h.descriptor.mediaType) :
    List.Forall₂ Field.Writes h.lines h.fields :=
  List.rel_append (Descriptor.writes_lines hd) h.writes_shownLines

theorem ends_of_mem_lines (h : Header) : ∀ l ∈ h.lines, l ≠ [] ∧ l.getLast? ≠ some '\n' := by
  intro l hl
  rcases List.mem_append.mp hl with hl | hl
  · unfold Descriptor.lines at hl
    split at hl
    · rcases List.mem_append.mp hl with hl | hl
      · rcases List.mem_append.mp hl with hl | hl
        · rw [List.mem_singleton.mp hl]
          have hv := Descriptor.writes_version h.descriptor.version
          exact ⟨hv.ne_nil, hv.last⟩
        · split at hl
          · cases hl
          · rw [List.mem_singleton.mp hl]
            exact ⟨by simp, h.descriptor.getLast?_typeLine⟩
      · have hb := Field.isBlock_of_writes h.descriptor.writes_encodingLines l hl
        exact ⟨hb.ne_nil, hb.last⟩
    · cases hl
  · have hb := Field.isBlock_of_writes h.writes_shownLines l hl
    exact ⟨hb.ne_nil, hb.last⟩

theorem head?_lines (h : Header) :
    ∃ c, h.lines.head?.bind List.head? = some c ∧ Text.isGraphic c = true := by
  unfold lines Descriptor.lines
  split
  · exact ⟨'M', rfl, rfl⟩
  · exact ⟨'D', rfl, rfl⟩

theorem getLast_lines (h : Header) :
    ∀ c ∈ h.lines.getLast?.bind List.getLast?, Text.isBlank c = false := by
  have hl : h.lines.getLast? =
      some (SpamScore.fieldName ++ ": ".toList ++ Digits.ofNat h.spamScore) := by
    unfold lines
    rw [List.getLast?_append_of_ne_nil _ (by simp)]
    rfl
  intro c hc
  rw [hl, Option.bind_some, List.getLast?_append_of_ne_nil _ (Digits.ofNat_ne_nil _)] at hc
  exact Digits.isBlank_of_isDigit (Digits.isDigit_ofNat _ c (List.mem_of_getLast? hc))

theorem write_eq (h : Header) : h.write = Text.join lineBreak h.lines := by
  have hn : ∀ l ∈ h.lines, l ≠ [] := fun l hl => (h.ends_of_mem_lines l hl).1
  apply Text.isTrimmed_of_edges
  · intro c hc
    obtain ⟨d, hd, hg⟩ := h.head?_lines
    rw [Text.head?_join hn, hd] at hc
    cases hc
    exact Text.isBlank_of_isGraphic hg
  · intro c hc
    rw [Text.getLast?_join hn] at hc
    exact h.getLast_lines c hc

theorem ofText_write {h : Header} {fields : List Field}
    (hw : List.Forall₂ Field.Writes h.lines fields) : Field.ofText h.write = fields := by
  rw [write_eq]
  exact Field.ofText_join hw

theorem ofBytes_of_ne_nil [Charset.Library] {raw : Bytes} (h : raw ≠ []) :
    ofBytes raw = .ok (ofFields (FieldMap.ofText (Charset.decodeRaw raw))) := by
  rw [ofBytes, FieldMap.ofBytes, if_neg (by simpa using h)]
  rfl

theorem ofBytes_encode [Charset.Library] {c : Char} {t : Text} (ht : t.head? = some c)
    (hc : c.toNat < 128) : ofBytes (Utf8.encode t) = .ok (ofFields (FieldMap.ofText t)) := by
  obtain ⟨r, rfl⟩ := List.head?_eq_some_iff.mp ht
  rw [ofBytes_of_ne_nil (mt Utf8.encode_eq_nil_iff.mp (List.cons_ne_nil c r)),
    Charset.decodeRaw_encode_cons r hc]

theorem ofBytes_write [Charset.Library] {h : Header} {fields : List Field}
    (hw : List.Forall₂ Field.Writes h.lines fields) :
    ofBytes (Utf8.encode h.write) = .ok (ofFields (FieldMap.ofFields fields)) := by
  obtain ⟨c, hhead, hg⟩ := h.head?_lines
  rw [← Text.head?_join fun l hl => (h.ends_of_mem_lines l hl).1, ← write_eq] at hhead
  have hc : c.toNat < 128 := by
    simp only [Text.isGraphic, Bool.and_eq_true, decide_eq_true_eq] at hg
    omega
  rw [ofBytes_encode hhead hc, FieldMap.ofText, ofText_write hw]

theorem isApart_shownFields (h : Header) : Descriptor.IsApart h.shownFields := by
  unfold Descriptor.IsApart shownFields
  simp [Text.same]

theorem first?_fields (h : Header) {q : Text}
    (hq : Text.same "mime-version".toList q = false ∧ Text.same "content-type".toList q = false ∧
      Text.same "content-transfer-encoding".toList q = false) :
    (FieldMap.ofFields h.fields).first? q =
      (h.shownFields.find? fun f => Text.same f.name q).map Field.value := by
  have hn : h.descriptor.fields.find? (fun f => Text.same f.name q) = none := by
    rw [List.find?_eq_none]
    intro f hf
    rcases Descriptor.name_of_mem_fields hf with hn | hn | hn
    · rw [hn, hq.1]
      exact Bool.false_ne_true
    · rw [hn, hq.2.1]
      exact Bool.false_ne_true
    · rw [hn, hq.2.2]
      exact Bool.false_ne_true
  rw [FieldMap.first?_ofFields, fields, List.find?_append, hn, Option.none_or]

end MimeMail.Header
