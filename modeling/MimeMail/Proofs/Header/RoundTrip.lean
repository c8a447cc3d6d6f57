import MimeMail.Proofs.Date.Representable
import MimeMail.Proofs.Header.Written

namespace MimeMail.Text

def spaced (t : Text) : Text := t.map fun c => if c = '\r' then ' ' else c

theorem oneLine_eq_spaced {t : Text} (h : '\n' ∉ t) : oneLine t = spaced t := by
  apply List.map_congr_left
  intro c hc
  have hn : c ≠ '\n' := fun he => h (he ▸ hc)
  simp [hn]

theorem toLower_eq_self {c : Char} (h : c.isAlpha = false) : c.toLower = c := by
  apply Char.toLower_eq_of_not_isUpper
  intro hu
  simp [Char.isAlpha, hu] at h

theorem same_eq_false {s t : Text} {c : Char} (hc : c ∈ s) (ha : c.isAlpha = false) (ht : c ∉ t) :
    same s t = false := by
  rw [← Bool.not_eq_true]
  intro hs
  have hs : s.map Char.toLower = t.map Char.toLower := by simpa [same] using hs
  have hm : c ∈ t.map Char.toLower := by
    rw [← hs, ← toLower_eq_self ha]
    exact List.mem_map_of_mem hc
  obtain ⟨d, hd, he⟩ := List.mem_map.mp hm
  have hda : d.isAlpha = false := by rw [← Char.isAlpha_toLower_eq_isAlpha, he, ha]
  rw [toLower_eq_self hda] at he
  exact ht (he ▸ hd)

theorem same_oneLine {s t : Text} (h : ' ' ∉ t) (hl : IsLine t) :
    same (oneLine s) t = same s t := by
  by_cases hs : IsLine s
  · rw [oneLine_eq_self hs]
  · simp only [IsLine, not_forall] at hs
    obtain ⟨c, hc, hb⟩ := hs
    have hb : c = '\r' ∨ c = '\n' := by
      by_contra hn
      exact hb (not_or.mp hn)
    have hspace : ' ' ∈ oneLine s := by
      refine List.mem_map.mpr ⟨c, hc, ?_⟩
      rcases hb with rfl | rfl <;> rfl
    have hct : c ∉ t := by
      intro hm
      rcases hb with rfl | rfl
      · exact (hl _ hm).1 rfl
      · exact (hl _ hm).2 rfl
    have hca : c.isAlpha = false := by rcases hb with rfl | rfl <;> rfl
    rw [same_eq_false hspace rfl h, same_eq_false hc hca hct]

end MimeMail.Text

namespace MimeMail.Header

theorem date_fields {h : Header} (hx : h.date.IsRepresentable) :
    (FieldMap.ofFields h.fields).date = h.date.wholeSecond := by
  have hf : (FieldMap.ofFields h.fields).first? "date".toList = some h.date.headerText :=
    h.first?_fields ⟨rfl, rfl, rfl⟩
  rw [FieldMap.date, hf, Option.bind_some, Instant.read?_headerText hx, Option.getD_some]

theorem spamScore_fields {h : Header} (hs : h.spamScore ≤ SpamScore.top) :
    SpamScore.ofFields (FieldMap.ofFields h.fields) = h.spamScore := by
  have hf : (FieldMap.ofFields h.fields).first? SpamScore.fieldName =
      some (Digits.ofNat h.spamScore) := h.first?_fields ⟨rfl, rfl, rfl⟩
  have hw : (FieldMap.ofFields h.fields).first? "X-Watney-Antispam".toList = none :=
    h.first?_fields ⟨rfl, rfl, rfl⟩
  have hl : (FieldMap.ofFields h.fields).first? "X-Spam-Level".toList = none :=
    h.first?_fields ⟨rfl, rfl, rfl⟩
  rw [SpamScore.ofFields]
  dsimp only
  rw [hf, hw, hl]
  simp [SpamScore.leading_ofNat hs]

theorem descriptor_fields {h : Header} (hd : h.descriptor.IsReadable) :
    Descriptor.ofFields (FieldMap.ofFields h.fields) = h.descriptor.rewritten := by
  rw [fields, Descriptor.ofFields_append_apart h.isApart_shownFields, Descriptor.ofFields_fields hd]

theorem encoding_rewritten {d : Descriptor} (ht : Text.IsTrimmed d.encoding)
    (hn : '\n' ∉ d.encoding) :
    d.writtenEncoding?.getD defaultEncoding =
      if d.encoding ≠ [] ∧ Text.same d.encoding defaultEncoding = false ∧
          (d.isMultipart = false ∨ Descriptor.identityEncodings.any (Text.same d.encoding) = true)
        then Text.spaced d.encoding else defaultEncoding := by
  have hdefault : Text.same (Text.oneLine d.encoding) defaultEncoding =
      Text.same d.encoding defaultEncoding := by
    unfold defaultEncoding
    exact Text.same_oneLine (by simp) (by simp)
  have hidentity : Descriptor.identityEncodings.any (Text.same (Text.oneLine d.encoding)) =
      Descriptor.identityEncodings.any (Text.same d.encoding) := by
    simp only [Descriptor.identityEncodings, List.any_cons, List.any_nil]
    rw [Text.same_oneLine (by simp) (by simp), Text.same_oneLine (by simp) (by simp),
      Text.same_oneLine (by simp) (by simp)]
  have hempty : (Text.oneLine d.encoding).isEmpty = d.encoding.isEmpty := by
    simp [Text.oneLine]
  rw [Descriptor.writtenEncoding?, ht, hdefault, hidentity, hempty, ← Text.oneLine_eq_spaced hn]
  by_cases hc : d.encoding ≠ [] ∧ Text.same d.encoding defaultEncoding = false
  · rw [if_neg (by simpa using hc)]
    by_cases hi : d.isMultipart = false ∨
        Descriptor.identityEncodings.any (Text.same d.encoding) = true
    · rw [if_neg (by simpa [or_iff_not_imp_left] using hi), if_pos ⟨hc.1, hc.2, hi⟩]
      rfl
    · rw [if_pos (by simpa using hi), if_neg fun h => hi h.2.2]
      rfl
  · rw [if_pos (by simpa [or_iff_not_imp_left] using hc), if_neg fun h => hc ⟨h.1, h.2.1⟩]
    rfl

theorem isRepresentable_date (fields : FieldMap) : fields.date.IsRepresentable := by
  rw [FieldMap.date]
  cases hx : (fields.first? "date".toList).bind Instant.read? with
  | none => decide
  | some x =>
    obtain ⟨v, -, hv⟩ := Option.bind_eq_some_iff.mp hx
    exact Instant.isRepresentable_read v x hv

section

variable [Charset.Library]

theorem shown_eq {fields : FieldMap} {name v : Text} (h : fields.first? name = some v)
    (ht : Text.IsTrimmed v) : fields.shown name = EncodedWord.decode v := by
  unfold FieldMap.shown
  rw [h]
  split
  · next r he =>
    cases he
    exact absurd (ht.head ' ' rfl) (by decide)
  · next w he =>
    cases he
    rfl
  · next he => cases he

theorem subject_fields (h : Header) :
    (FieldMap.ofFields h.fields).shown "subject".toList =
      EncodedWord.reread (Text.oneLine h.subject) := by
  have hf : (FieldMap.ofFields h.fields).first? "subject".toList =
      some (Text.trim (EncodedWord.encode (Text.oneLine h.subject))) :=
    h.first?_fields ⟨rfl, rfl, rfl⟩
  rw [shown_eq hf (Text.isTrimmed_trim _), EncodedWord.decode_trim_encode]

theorem sender_fields (h : Header) :
    (FieldMap.ofFields h.fields).shown "from".toList =
      EncodedWord.decode (Text.trim (Mailbox.encodeList h.sender)) :=
  shown_eq (h.first?_fields ⟨rfl, rfl, rfl⟩) (Text.isTrimmed_trim _)

theorem receiver_fields (h : Header) :
    (FieldMap.ofFields h.fields).shown "to".toList =
      EncodedWord.decode (Text.trim (Mailbox.encodeList h.receiver)) :=
  shown_eq (h.first?_fields ⟨rfl, rfl, rfl⟩) (Text.isTrimmed_trim _)

theorem ofBytes_write_ofFields {h : Header} (hd : h.descriptor.IsReadable) :
    ofBytes (Utf8.encode h.write) = .ok (ofFields (FieldMap.ofFields h.fields)) :=
  ofBytes_write (writes_lines hd.mediaType)

theorem display_fields_written {h : Header} (hs : h.spamScore ≤ SpamScore.top)
    (hx : h.date.IsRepresentable)
    (hm : h.descriptor = {} ∨ ∃ t, h.descriptor = Descriptor.ofFields (FieldMap.ofText t)) :
    ∃ r, ofBytes (Utf8.encode h.write) = .ok r ∧ r.date = h.date.wholeSecond ∧
      r.spamScore = h.spamScore ∧
      r.subject = if Text.isAscii (Text.oneLine h.subject) then
        EncodedWord.decode (Text.trim (Text.oneLine h.subject)) else Text.oneLine h.subject := by
  have hd : h.descriptor.IsReadable := by
    rcases hm with hm | ⟨t, hm⟩
    · rw [hm]
      exact Descriptor.isReadable_default
    · rw [hm]
      exact Descriptor.isReadable_ofFields _
  exact ⟨_, ofBytes_write_ofFields hd, date_fields hx, spamScore_fields hs, h.subject_fields⟩

end

theorem display_fields_written_leap :
    ∃ r, ofBytes (Utf8.encode (write
        { date := ⟨-1, 1500000000⟩
          subject := "Grüße\r\nBcc: x".toList
          spamScore := 7 })) = .ok r ∧
      r.date = ⟨-1, 1000000000⟩ ∧ r.spamScore = 7 ∧ r.subject = "Grüße  Bcc: x".toList := by
  have hs : Text.isAscii (Text.oneLine "Grüße\r\nBcc: x".toList) = false := rfl
  obtain ⟨r, hr, hdate, hspam, hsubject⟩ := display_fields_written
    (h := { date := ⟨-1, 1500000000⟩
            subject := "Grüße\r\nBcc: x".toList
            spamScore := 7 }) (by decide) (by decide) (.inl rfl)
  rw [hs, if_neg Bool.false_ne_true] at hsubject
  exact ⟨r, hr, hdate, hspam, hsubject⟩

theorem descriptor_written [Charset.Library] (t : Text) {h : Header}
    (hm : h.descriptor = Descriptor.ofFields (FieldMap.ofText t)) :
    ∃ r, ofBytes (Utf8.encode h.write) = .ok r ∧
      (h.descriptor.version.isZero = true → r.descriptor = {}) ∧
      (h.descriptor.version.isPositive = true →
        Single.read? h.descriptor.version.tenths = some h.descriptor.version →
        r.descriptor.version = h.descriptor.version ∧
        r.descriptor.mediaType = h.descriptor.mediaType ∧
        r.descriptor.boundary = Text.spaced h.descriptor.boundary ∧
        r.descriptor.encoding =
          if h.descriptor.encoding ≠ [] ∧
              Text.same h.descriptor.encoding defaultEncoding = false ∧
              (h.descriptor.isMultipart = false ∨
                Descriptor.identityEncodings.any (Text.same h.descriptor.encoding) = true)
            then Text.spaced h.descriptor.encoding else defaultEncoding) := by
  have hd : h.descriptor.IsReadable := by
    rw [hm]
    exact Descriptor.isReadable_ofFields _
  have hr : (ofFields (FieldMap.ofFields h.fields)).descriptor = h.descriptor.rewritten :=
    descriptor_fields hd
  refine ⟨_, ofBytes_write_ofFields hd, fun hz => ?_, fun hp hv => ?_⟩
  · rw [hr, Descriptor.rewritten, if_neg (by simp [Single.isPositive, hz])]
  · have hb : '\n' ∉ h.descriptor.boundary := by
      rw [hm]
      exact Descriptor.newline_not_mem_boundary t
    have he : Text.IsTrimmed h.descriptor.encoding ∧ '\n' ∉ h.descriptor.encoding := by
      rw [hm]
      exact Descriptor.encoding_ofText t
    have hf : (h.descriptor.version.isFinite && h.descriptor.version.isNonneg) = true := by
      rw [hm]
      exact Descriptor.version_finite _
    rw [hr, Descriptor.rewritten, if_pos hp]
    exact ⟨Descriptor.readVersion_tenths hf hv, rfl, Text.oneLine_eq_spaced hb,
      encoding_rewritten he.1 he.2⟩

def quoted : Header where
  descriptor :=
    { version := ⟨0x3F800000⟩
      mediaType := "multipart/mixed".toList
      boundary := ['a', ';', '"', 'b'] }

theorem ofFields_quoted :
    Descriptor.ofFields (FieldMap.ofText quoted.write) = quoted.descriptor := by
  have hd : quoted.descriptor.IsReadable := by
    refine ⟨.inr ⟨⟨"multipart".toList, "mixed".toList, rfl, rfl, rfl⟩, ?_⟩, fun h => ?_⟩
    · simp [quoted]
    · cases h
  have hr : quoted.descriptor.rewritten = quoted.descriptor := by
    have hv : Descriptor.readVersion (Single.tenths ⟨0x3F800000⟩) = ⟨0x3F800000⟩ := by
      decide +kernel
    have hp : quoted.descriptor.version.isPositive = true := rfl
    rw [Descriptor.rewritten, if_pos hp]
    change Descriptor.mk (Descriptor.readVersion (Single.tenths ⟨0x3F800000⟩)) _ _ _ = _
    rw [hv]
    rfl
  rw [FieldMap.ofText, ofText_write (writes_lines hd.mediaType), descriptor_fields hd, hr]

theorem descriptor_written_quoted :
    ∃ r, ofBytes (Utf8.encode quoted.write) = .ok r ∧
      r.descriptor.version = ⟨0x3F800000⟩ ∧ r.descriptor.boundary = ['a', ';', '"', 'b'] := by
  obtain ⟨r, hr, -, hp⟩ := descriptor_written quoted.write ofFields_quoted.symm
  obtain ⟨hversion, -, hboundary, -⟩ := hp rfl (by decide +kernel)
  exact ⟨r, hr, hversion, hboundary⟩

section

variable [Charset.Library]

/-- What the addresses of a field are read back as. ASCII ones are decoded as they stand, and in all
others each mailbox loses its outer blanks and the quotes around a name that is not ASCII. -/
def AddressesReread (t r : Text) : Prop :=
  if Text.isAscii t then r = EncodedWord.decode (Text.trim t)
  else (∀ m ∈ Mailbox.split t, ¬ ['=', '?'] <:+: Mailbox.plain (Text.trim m)) →
    r = Mailbox.normalList t

theorem addressesReread (t : Text) :
    AddressesReread (Text.oneLine t) (EncodedWord.decode (Text.trim (Mailbox.encodeList t))) := by
  rw [AddressesReread, Text.isAscii_oneLine]
  split
  · next ha => rw [Mailbox.decode_trim_encodeList_of_isAscii ha]
  · next ha => exact Mailbox.decode_trim_encodeList (by simpa using ha)

theorem read_write_read {raw : Bytes} (hraw : raw ≠ []) :
    ∃ h r, ofBytes raw = .ok h ∧ ofBytes (Utf8.encode h.write) = .ok r ∧
      r.date = h.date.wholeSecond ∧ r.spamScore = h.spamScore ∧
      r.descriptor = h.descriptor.rewritten ∧
      r.subject = (if Text.isAscii (Text.oneLine h.subject) then
        EncodedWord.decode (Text.trim (Text.oneLine h.subject)) else Text.oneLine h.subject) ∧
      AddressesReread (Text.oneLine h.sender) r.sender ∧
      AddressesReread (Text.oneLine h.receiver) r.receiver := by
  have hread := ofBytes_of_ne_nil hraw
  generalize FieldMap.ofText (Charset.decodeRaw raw) = fields at hread
  have hd : (ofFields fields).descriptor.IsReadable := Descriptor.isReadable_ofFields fields
  refine ⟨_, _, hread, ofBytes_write_ofFields hd, date_fields (isRepresentable_date fields),
    spamScore_fields (SpamScore.ofFields_le_top fields), descriptor_fields hd, subject_fields _,
    ?_, ?_⟩
  · change AddressesReread _ ((FieldMap.ofFields _).shown "from".toList)
    rw [sender_fields]
    exact addressesReread _
  · change AddressesReread _ ((FieldMap.ofFields _).shown "to".toList)
    rw [receiver_fields]
    exact addressesReread _

end

def letter : Text :=
  Text.join ['\n']
    ["Date: Thu, 04 Jan 2024 10:00:00 +0000".toList, "From: =?UTF-8?Q?J=C3=B6rg?= <j@x.org>".toList,
      "To: \"Müller, Hans\" <h@x.org>,bob@x.org".toList, "Subject: Grüße".toList,
      "X-Spam-Level: ***".toList, "MIME-Version: 1.0".toList,
      "Content-Type: multipart/mixed; boundary=b".toList, "Content-Transfer-Encoding: 8bit".toList]

def letterHeader : Header where
  date := ⟨1704362400, 0⟩
  subject := "Grüße".toList
  sender := "Jörg <j@x.org>".toList
  receiver := "\"Müller, Hans\" <h@x.org>,bob@x.org".toList
  spamScore := 3
  descriptor :=
    { version := ⟨0x3F800000⟩
      mediaType := "multipart/mixed".toList
      encoding := "8bit".toList
      boundary := ['b'] }

theorem ofBytes_letter : ofBytes (Utf8.encode letter) = .ok letterHeader := by
  have hhead : letter.head? = some 'D' := by decide +kernel
  have hfields : ofFields (FieldMap.ofText letter) = letterHeader := by decide +kernel
  rw [ofBytes_encode hhead (by decide), hfields]

theorem read_write_read_letter :
    ofBytes (Utf8.encode letter) = .ok letterHeader ∧
      ∃ r, ofBytes (Utf8.encode letterHeader.write) = .ok r ∧ r.date = letterHeader.date ∧
        r.spamScore = letterHeader.spamScore ∧ r.descriptor = letterHeader.descriptor ∧
        r.subject = letterHeader.subject ∧ r.sender = letterHeader.sender ∧
        r.receiver = "Müller, Hans <h@x.org>, bob@x.org".toList := by
  have hraw : Utf8.encode letter ≠ [] := by decide +kernel
  obtain ⟨h, r, hh, hr, hdate, hspam, hdescriptor, hsubject, hsender, hreceiver⟩ :=
    read_write_read hraw
  obtain rfl : letterHeader = h := Except.ok.inj (ofBytes_letter.symm.trans hh)
  have hrewritten : letterHeader.descriptor.rewritten = letterHeader.descriptor := by decide +kernel
  rw [AddressesReread, if_neg (by decide +kernel)] at hsender hreceiver
  refine ⟨hh, r, hr, hdate, hspam, hdescriptor.trans hrewritten, ?_, ?_, ?_⟩
  · rw [hsubject, if_neg (by decide +kernel)]
    decide +kernel
  · rw [hsender (by decide +kernel)]
    decide +kernel
  · rw [hreceiver (by decide +kernel)]
    decide +kernel

theorem descriptor_lost :
    ∃ h r, ofBytes (Utf8.encode "Content-Type: text/html;".toList) = .ok h ∧
      ofBytes (Utf8.encode h.write) = .ok r ∧ r.descriptor ≠ h.descriptor := by
  have hfields : ofFields (FieldMap.ofText "Content-Type: text/html;".toList) =
      { descriptor := { mediaType := "text/html".toList } } := by
    decide +kernel
  have hread : ofBytes (Utf8.encode "Content-Type: text/html;".toList) =
      .ok { descriptor := { mediaType := "text/html".toList } } :=
    (ofBytes_encode rfl (by decide)).trans (congrArg Except.ok hfields)
  have hd : (Header.descriptor { descriptor := { mediaType := "text/html".toList } }).IsReadable := by
    rw [← hfields]
    exact Descriptor.isReadable_ofFields _
  refine ⟨_, _, hread, ofBytes_write_ofFields hd, fun he => ?_⟩
  exact absurd ((descriptor_fields hd).symm.trans he) (by decide +kernel)

end MimeMail.Header
