import MimeMail.Proofs.Content.Decoding
import MimeMail.Proofs.Content.Isolation

/-!
Leaf parts. A part without a transfer encoding is read in its charset and then as quoted-printable,
which passes over all but printable ASCII. So what is shown of it is the ASCII in its text, and only
text that is all printable ASCII is shown as it was read.
-/

namespace MimeMail

theorem Part.decode_quotedPrintable [Charset.Library] (mediaType charset body : Text) :
    decode mediaType { charset, body } = {
      encoding := "8bit".toList
      body := (Charset.decodeNamed? charset (QuotedPrintable.decode body)).getD
        (Utf8.decodeLossy (QuotedPrintable.decode body)) } := rfl

def Charset.readAs [Library] (name? : Option Text) (other : Bytes → Text) (bs : Bytes) : Text :=
  (name?.bind (decodeNamed? · bs)).getD (other bs)

namespace Content

open Multipart (IsBoundary Avoids assemble)
open QuotedPrintable (allowed)

def charset? (fields : FieldMap) : Option Text :=
  (fields.mediaType?.bind (·.param? "charset".toList)).filter (!·.isEmpty)

/-- One line with no `=` in it, no blank at its end and no byte-order mark: nothing of it is
encoded. -/
structure IsBare (body : Bytes) : Prop where
  equals_not_mem : 0x3D ∉ body
  return_not_mem : 0x0D ∉ body
  newline_not_mem : 0x0A ∉ body
  last : ∀ b ∈ body.getLast?, Multipart.isBlank b = false
  not_isMarked : ¬ Charset.IsMarked body

def printable (t : Text) : Text := Text.trimEnd (t.filter allowed)

theorem lt_of_mem_printable {t : Text} : ∀ c ∈ printable t, c.toNat < 128 := by
  intro c hc
  have hm := (List.rdropWhile_prefix _ _).mem hc
  exact QuotedPrintable.lt_of_allowed (List.mem_filter.mp hm).2

section

variable [Charset.Library]

theorem leaf_eq_readAs (fields : FieldMap) (body : Bytes) :
    leaf fields body = {
      charset := (charset? fields).getD defaultCharset
      encoding := (Descriptor.ofFields fields).encoding
      body := Charset.readAs (charset? fields) Charset.decodeRaw body } := rfl

theorem get?_ofMultipart_leaf {boundary : Text} (h : IsBoundary boundary) {part : Bytes}
    {ps qs : List Bytes} (hpart : Avoids boundary part) (hp : ∀ part ∈ ps, Avoids boundary part)
    (hq : ∀ part ∈ qs, Avoids boundary part) (depth : ℕ) {key : Text} {p : Part}
    (hleaf : component? part = some (.leaf key p))
    (hlater : (ofMultipart depth boundary (assemble boundary qs)).get? key = none) :
    (ofMultipart depth boundary (assemble boundary (ps ++ part :: qs))).get? key = some p := by
  have hone : ∀ p ∈ [part], Avoids boundary p := by simpa using hpart
  have hcons : ∀ p ∈ [part] ++ qs, Avoids boundary p := List.forall_mem_append.mpr ⟨hone, hq⟩
  have hsplit : ps ++ part :: qs = ps ++ ([part] ++ qs) := rfl
  have hget : (ofMultipart depth boundary (assemble boundary [part])).get? key = some p := by
    rw [ofMultipart_assemble h hone, List.flatMap_singleton, leavesOf_of_leaf hleaf]
    simp [ofParts, get?_insert]
  rw [hsplit, get?_ofMultipart_append h hp hcons, get?_ofMultipart_append h hone hq, hlater, hget]
  rfl

theorem decode_of_readsBytes {name : Text} {charset : Charset} {read : UInt8 → Char}
    (hr : charset.ReadsBytes read) (hn : Charset.ofName? name = some charset) (hu : charset ≠ .utf8)
    {t : Text} (hnewline : '\n' ∉ t) (hequals : '=' ∉ t) (mediaType : Text) :
    Part.decode mediaType { charset := name, body := t } =
      { encoding := "8bit".toList, body := printable t } := by
  have hbytes : QuotedPrintable.decode t = Utf8.encode (printable t) := by
    rw [← QuotedPrintable.map_byte_eq_encode lt_of_mem_printable, printable,
      QuotedPrintable.decode_line hnewline hequals]
  rw [Part.decode_quotedPrintable, hbytes, Charset.decodeNamed?_of_ofName hn hu,
    hr.decode_encode lt_of_mem_printable, Option.getD_some]

theorem allowed_read_iff {charset : Charset} {read : UInt8 → Char} (hr : charset.ReadsBytes read)
    {b : UInt8} (hreturn : b ≠ 0x0D) (hnewline : b ≠ 0x0A) :
    allowed (read b) = true ↔ b = 0x09 ∨ 0x20 ≤ b ∧ b ≤ 0x7E := by
  have heq (n : ℕ) (hn : n < 256) : b = UInt8.ofNat n ↔ b.toNat = n := by
    rw [← UInt8.toNat_inj, UInt8.toNat_ofNat_of_lt' hn]
  have hbyte : (b = 0x09 ∨ 0x20 ≤ b ∧ b ≤ 0x7E) ↔
      b.toNat = 0x09 ∨ 0x20 ≤ b.toNat ∧ b.toNat ≤ 0x7E := or_congr (heq 0x09 (by decide)) Iff.rfl
  have hr' : b.toNat ≠ 0x0D := mt (heq 0x0D (by decide)).mpr hreturn
  have hn' : b.toNat ≠ 0x0A := mt (heq 0x0A (by decide)).mpr hnewline
  rw [QuotedPrintable.allowed_iff, hbyte]
  by_cases hb : b < 0x80
  · rw [hr.toNat_read hb]
    omega
  · -- Neither side holds: the byte is read as no ASCII character.
    have hlow : ¬ b.toNat < 128 := hb
    have hhigh := hr.high b hb
    omega

theorem isBlank_of_isBlank_read {charset : Charset} {read : UInt8 → Char}
    (hr : charset.ReadsBytes read) {b : UInt8} (ha : allowed (read b) = true)
    (hb : Text.isBlank (read b) = true) : Multipart.isBlank b = true := by
  have hn := hr.toNat_of_lt (QuotedPrintable.lt_of_allowed ha)
  have hc : b.toNat = 0x20 ∨ b.toNat = 0x09 ∨ b.toNat = 0x0A ∨ b.toNat = 0x0D := by
    rw [QuotedPrintable.allowed_iff, ← hn] at ha
    simp only [Text.isBlank, ← hn, Bool.or_eq_true, Bool.and_eq_true, decide_eq_true_eq,
      beq_iff_eq] at hb
    omega
  have hb : b = UInt8.ofNat b.toNat := UInt8.ofNat_toNat.symm
  rcases hc with hc | hc | hc | hc <;>
  · rw [hb, hc]
    rfl

theorem printable_eq_self_iff {charset : Charset} {read : UInt8 → Char}
    (hr : charset.ReadsBytes read) {body : Bytes} (h : IsBare body) :
    printable (charset.decodeUnmarked body) = charset.decodeUnmarked body ↔
      ∀ b ∈ body, b = 0x09 ∨ 0x20 ≤ b ∧ b ≤ 0x7E := by
  have hall : (∀ c ∈ charset.decodeUnmarked body, allowed c = true) ↔
      ∀ b ∈ body, b = 0x09 ∨ 0x20 ≤ b ∧ b ≤ 0x7E := by
    rw [hr.decode, List.forall_mem_map]
    refine forall₂_congr fun b hb => allowed_read_iff hr ?_ ?_
    · exact fun he => h.return_not_mem (he ▸ hb)
    · exact fun he => h.newline_not_mem (he ▸ hb)
  rw [← hall]
  constructor
  · intro he c hc
    rw [← he] at hc
    exact (List.mem_filter.mp ((List.rdropWhile_prefix _ _).mem hc)).2
  · intro ha
    rw [printable, List.filter_eq_self.mpr ha]
    -- Only the last byte could be read as a blank that is dropped.
    apply Text.rdropWhile_eq_self
    intro c hc
    rw [hr.decode, List.getLast?_map] at hc
    obtain ⟨b, hb, rfl⟩ := Option.map_eq_some_iff.mp hc
    have hread : read b ∈ charset.decodeUnmarked body := by
      rw [hr.decode]
      exact List.mem_map_of_mem (List.mem_of_getLast? hb)
    by_contra hblank
    have hbyte := isBlank_of_isBlank_read hr (ha _ hread) (by simpa using hblank)
    exact absurd (hbyte.symm.trans (h.last b hb)) (by decide)

theorem decode_leaf {fields : FieldMap} {name : Text} {charset : Charset} {read : UInt8 → Char}
    {body : Bytes} (hcharset : charset? fields = some name)
    (hencoding : fields.first? "content-transfer-encoding".toList = none)
    (hname : Charset.ofName? name = some charset) (hu : charset ≠ .utf8)
    (hr : charset.ReadsBytes read) (hbody : IsBare body) (mediaType : Text) :
    Part.decode mediaType (leaf fields body) =
      { encoding := "8bit".toList, body := printable (charset.decodeUnmarked body) } := by
  -- What quoted-printable acts on stands in the text only if it stands in the bytes.
  have hnewline : '\n' ∉ charset.decodeUnmarked body :=
    fun hm => hbody.newline_not_mem (hr.mem_of_mem_decode (by decide) hm)
  have hequals : '=' ∉ charset.decodeUnmarked body :=
    fun hm => hbody.equals_not_mem (hr.mem_of_mem_decode (by decide) hm)
  rw [leaf_eq_readAs, hcharset, Charset.readAs, Option.bind_some,
    Charset.decodeNamed?_of_ofName hname hu, Option.getD_some,
    Charset.decode_of_not_isMarked charset hbody.not_isMarked, Descriptor.encoding_ofFields,
    hencoding]
  exact decode_of_readsBytes hr hname hu hnewline hequals mediaType

end

def plainLine (label : Text) : Text := "Content-Type: text/plain; charset=".toList ++ label

def plainValue (label : Text) : Text := "text/plain; charset=".toList ++ label

theorem plainLine_eq (label : Text) :
    plainLine label = "Content-Type".toList ++ ':' :: ' ' :: plainValue label := by
  unfold plainLine plainValue
  simp

theorem plainValue_eq (label : Text) :
    plainValue label = plainText ++ ';' :: ' ' :: ("charset".toList ++ '=' :: label) := by
  unfold plainValue plainText
  simp

theorem isType_plainText : MediaType.IsType plainText :=
  ⟨"text".toList, "plain".toList, rfl, rfl, rfl⟩

theorem mediaType?_plainValue {label : Text} (hq : label.head? ≠ some '"') (hs : ';' ∉ label)
    (ht : Text.IsTrimmed label) :
    (FieldMap.ofFields [⟨"content-type".toList, plainValue label⟩]).mediaType? =
      some ⟨plainText, [("charset".toList, label)]⟩ := by
  have htoken : MediaType.isToken "charset".toList = true := rfl
  have hread := isType_plainText.read_bare htoken (by simp) hq hs ht
  have hsame : Text.same "content-type".toList "content-type".toList = true := rfl
  rw [FieldMap.mediaType?, FieldMap.first?_ofFields, List.find?_cons]
  simp only [hsame, Option.map_some, Option.bind_some]
  rw [MediaType.ofText, plainValue_eq, hread]
  rfl

theorem isLeafHead_plainLine {label : Text} (hne : label ≠ []) (hq : label.head? ≠ some '"')
    (hs : ';' ∉ label) (ht : Text.IsTrimmed label) (hl : Text.IsLine label) :
    Entity.IsLeafHead [plainLine label] [⟨"content-type".toList, plainValue label⟩]
      ⟨plainText, [("charset".toList, label)]⟩ := by
  have hline : Text.IsLine (plainValue label) := by
    unfold plainValue
    simp [hl]
  have htrim : Text.IsTrimmed (plainValue label) :=
    Text.isTrimmed_append (by simp) hne (by simp [Text.isBlank]) ht.last
  have hw := Field.writes_trimmed Descriptor.isName_type hline htrim
  rw [← plainLine_eq] at hw
  refine ⟨?_, .cons hw .nil, mediaType?_plainValue hq hs ht, rfl⟩
  rw [plainLine_eq]
  simp

def latin1 : Text := "iso-8859-1".toList

theorem ofName?_latin1 : Charset.ofName? latin1 = some (.page CodePage.windows1252) := by
  rfl

theorem isLeafHead_latin1 :
    Entity.IsLeafHead [plainLine latin1] [⟨"content-type".toList, plainValue latin1⟩]
      ⟨plainText, [("charset".toList, latin1)]⟩ := by
  unfold latin1
  exact isLeafHead_plainLine (by simp) (by simp) (by simp) rfl (by simp)

theorem charset?_latin1 :
    charset? (FieldMap.ofFields [⟨"content-type".toList, plainValue latin1⟩]) =
      some latin1 := by
  rw [charset?, isLeafHead_latin1.mediaType]
  rfl

theorem plainText_displayed [Charset.Library] {boundary : Text} (hb : IsBoundary boundary)
    (depth : ℕ) {ps qs : List Bytes} (hp : ∀ part ∈ ps, Avoids boundary part)
    (hq : ∀ part ∈ qs, Avoids boundary part) {lines : List Text} {fields : List Field}
    {m : MediaType} {name : Text} {charset : Charset} {body : Bytes}
    (hhead : Entity.IsLeafHead lines fields m) (htype : m.essence = plainText)
    (hcharset : charset? (FieldMap.ofFields fields) = some name)
    (hencoding : (FieldMap.ofFields fields).first? "content-transfer-encoding".toList = none)
    (hname : Charset.ofName? name = some charset) (hsingle : charset.isSingleByte = true)
    (hbody : IsBare body) (hpart : Avoids boundary (Entity.write lines body))
    (hlater : (ofMultipart depth boundary (assemble boundary qs)).get? plainText = none) :
    ∃ part, (ofMultipart depth boundary
        (assemble boundary (ps ++ Entity.write lines body :: qs))).decode.get? plainText =
          some part ∧
      part.body = printable (Charset.decode charset body) ∧
      (part.body = Charset.decode charset body ↔ ∀ b ∈ body, b = 0x09 ∨ 0x20 ≤ b ∧ b ≤ 0x7E) := by
  have hu := Charset.ne_utf8_of_isSingleByte hsingle
  obtain ⟨read, hr⟩ := Charset.exists_readsBytes hname hsingle
  have hraw := component?_write body hhead
  rw [htype] at hraw
  have hget := get?_ofMultipart_leaf hb hpart hp hq depth hraw hlater
  have hdecode := decode_leaf hcharset hencoding hname hu hr hbody plainText
  rw [Charset.decode_of_not_isMarked charset hbody.not_isMarked]
  refine ⟨{ encoding := "8bit".toList, body := printable (charset.decodeUnmarked body) }, ?_, rfl,
    printable_eq_self_iff hr hbody⟩
  rw [get?_decode, hget]
  exact congrArg some hdecode

theorem plainText_displayed_ascii :
    ∃ part, (ofMultipart 10 ['b'] (assemble ['b'] ([[0x0A, 0x78]] ++
        Entity.write [plainLine latin1] [0x61, 0x09, 0x62] :: []))).decode.get? plainText =
          some part ∧ part.body = Charset.decode (.page CodePage.windows1252) [0x61, 0x09, 0x62] := by
  have hb : IsBoundary ['b'] := ⟨by decide, by decide +kernel⟩
  have hbare : IsBare [0x61, 0x09, 0x62] :=
    ⟨by decide, by decide, by decide, by decide +kernel, by decide⟩
  have hearlier : ∀ part ∈ [[0x0A, 0x78]], Avoids ['b'] part := by decide +kernel
  have hpart : Avoids ['b'] (Entity.write [plainLine latin1] [0x61, 0x09, 0x62]) := by
    decide +kernel
  have hlater : (ofMultipart 10 ['b'] (assemble ['b'] [])).get? plainText = none := by
    decide +kernel
  obtain ⟨part, hget, -, htext⟩ := plainText_displayed hb 10 hearlier (by simp)
    isLeafHead_latin1 rfl charset?_latin1 rfl ofName?_latin1 rfl hbare hpart hlater
  exact ⟨part, hget, htext.mpr (by simp)⟩

def schoen : Bytes := [0x53, 0x63, 0x68, 0xF6, 0x6E]

theorem plainText_changed :
    Charset.ofName? latin1 = some (.page CodePage.windows1252) ∧ IsBare schoen ∧
      ∃ part, (ofMultipart 10 ['b'] (assemble ['b'] [Entity.write [plainLine latin1]
          schoen])).decode.get? plainText = some part ∧
        part.body ≠ Charset.decode (.page CodePage.windows1252) schoen := by
  have hb : IsBoundary ['b'] := ⟨by decide, by decide +kernel⟩
  have hbare : IsBare schoen := ⟨by decide, by decide, by decide, by decide +kernel, by decide⟩
  have hpart : Avoids ['b'] (Entity.write [plainLine latin1] schoen) := by decide +kernel
  have hnone : ∀ part ∈ [], Avoids ['b'] part := by simp
  have hlater : (ofMultipart 10 ['b'] (assemble ['b'] [])).get? plainText = none := by
    decide +kernel
  have hraw := component?_write schoen isLeafHead_latin1
  have hget := get?_ofMultipart_leaf hb hpart hnone hnone 10 hraw hlater
  have hu : Charset.page CodePage.windows1252 ≠ .utf8 := nofun
  obtain ⟨read, hr⟩ := Charset.exists_readsBytes ofName?_latin1 rfl
  have hdecode := decode_leaf charset?_latin1 rfl ofName?_latin1 hu hr hbare plainText
  refine ⟨ofName?_latin1, hbare, _, (get?_decode _ _).trans (congrArg _ hget), ?_⟩
  rw [hdecode, Charset.decode_of_not_isMarked _ hbare.not_isMarked]
  dsimp only
  exact mt (printable_eq_self_iff hr hbare).mp (by simp [schoen])

end Content

end MimeMail
