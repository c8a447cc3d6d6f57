import MimeMail.Content.Decode
import MimeMail.Proofs.Charset.Ascii
import MimeMail.Proofs.Content.Lookup
import MimeMail.Proofs.Text.Lowercase
import MimeMail.Proofs.Transfer.Base64
import MimeMail.Proofs.Transfer.Escapes

namespace MimeMail

theorem Charset.exists_decodeNamed [Charset.Library] {name : Text} {charset : Charset}
    (h : ofName? name = some charset) (bs : Bytes) : ∃ text, decodeNamed? name bs = some text := by
  rw [decodeNamed?_eq, h, Option.map_some]
  split
  · exact ⟨_, rfl⟩
  · exact ⟨_, rfl⟩

namespace Part

def IsEncodedAs (name : Text) (part : Part) : Prop :=
  ∃ before word after, part.encoding = before ++ (word ++ after) ∧
    (∀ c ∈ before, Text.isBlank c = true) ∧ (∀ c ∈ after, Text.isBlank c = true) ∧
    word.map Char.toLower = name

def base64 : Text := "base64".toList

def quotedPrintable : Text := "quoted-printable".toList

theorem isEncodedAs_iff {name : Text} {part : Part}
    (h : (name.all fun c => !c.isUpper && !Text.isBlank c) = true) :
    part.IsEncodedAs name ↔ Text.same (Text.trim part.encoding) name = true := by
  simp only [List.all_eq_true, Bool.and_eq_true, Bool.not_eq_true'] at h
  rw [Text.same, beq_iff_eq, Text.map_toLower_eq_self fun c hc => (h c hc).1]
  constructor
  · rintro ⟨before, word, after, he, hbefore, hafter, hword⟩
    have htrim : Text.IsTrimmed word := by
      apply Text.isTrimmed_of_no_blank
      intro c hc
      by_contra hblank
      rw [Bool.not_eq_false] at hblank
      have hlower : c.toLower = c :=
        Char.toLower_eq_of_not_isUpper (by simp [Text.isUpper_of_isBlank hblank])
      have hm : c ∈ name := by
        rw [← hword, ← hlower]
        exact List.mem_map_of_mem hc
      exact absurd (hblank.symm.trans (h c hm).2) (by decide)
    rw [he, Text.trim_blanks_append _ hbefore, Text.trim_append_blanks _ hafter, htrim, hword]
  · intro h
    obtain ⟨before, after, he, hbefore, hafter⟩ := Text.exists_trim part.encoding
    exact ⟨before, _, after, he, hbefore, hafter, h⟩

theorem isEncodedAs_base64 {part : Part} :
    part.IsEncodedAs base64 ↔ Text.same (Text.trim part.encoding) base64 = true :=
  isEncodedAs_iff (by decide +kernel)

theorem isEncodedAs_quotedPrintable {part : Part} :
    part.IsEncodedAs quotedPrintable ↔
      Text.same (Text.trim part.encoding) quotedPrintable = true :=
  isEncodedAs_iff (by decide +kernel)

theorem not_isEncodedAs_base64 {part : Part} (h : part.IsEncodedAs quotedPrintable) :
    ¬ part.IsEncodedAs base64 := by
  rw [isEncodedAs_quotedPrintable, Text.same, beq_iff_eq] at h
  rw [isEncodedAs_base64, Text.same, h]
  decide

section

variable {mediaType : Text} {part : Part}

theorem bytes?_of_quotedPrintable (h : part.IsEncodedAs quotedPrintable) :
    part.bytes? mediaType = some (QuotedPrintable.decode part.body) :=
  if_pos (isEncodedAs_quotedPrintable.mp h)

theorem bytes?_of_not_quotedPrintable (h : ¬ part.IsEncodedAs quotedPrintable) :
    part.bytes? mediaType =
      if Text.same (Text.trim part.encoding) base64 && (dropStart? "text/".toList mediaType).isSome
      then Base64.decode? (Text.words part.body).flatten else none :=
  if_neg (mt isEncodedAs_quotedPrintable.mpr h)

theorem isSome_dropStart_iff {start t : Text} :
    (dropStart? start t).isSome = true ↔ start <+: t := by
  rw [Option.isSome_iff_exists]
  simp only [dropStart?_eq_some_iff]
  exact ⟨fun ⟨r, h⟩ => ⟨r, h.symm⟩, fun ⟨r, h⟩ => ⟨r, h.symm⟩⟩

theorem bytes?_of_base64 (h : part.IsEncodedAs base64) (ht : "text/".toList <+: mediaType) :
    part.bytes? mediaType = Base64.decode? (part.body.filter (!Text.isBlank ·)) := by
  have hq : ¬ part.IsEncodedAs quotedPrintable := fun hq => not_isEncodedAs_base64 hq h
  rw [bytes?_of_not_quotedPrintable hq, isEncodedAs_base64.mp h, isSome_dropStart_iff.mpr ht,
    Text.flatten_words]
  rfl

/-- Why a part is kept as it is: there is no encoding to undo, it is no text, or it is no base64. -/
inductive IsKept (mediaType : Text) (part : Part) : Prop
  | plain (hq : ¬ part.IsEncodedAs quotedPrintable) (hb : ¬ part.IsEncodedAs base64)
  | binary (hb : part.IsEncodedAs base64) (ht : ¬ "text/".toList <+: mediaType)
  | undecodable (hb : part.IsEncodedAs base64)
      (hd : Base64.decode? (part.body.filter (!Text.isBlank ·)) = none)

theorem bytes?_eq_none_iff : part.bytes? mediaType = none ↔ part.IsKept mediaType := by
  by_cases hq : part.IsEncodedAs quotedPrintable
  · rw [bytes?_of_quotedPrintable hq]
    have hb := not_isEncodedAs_base64 hq
    refine ⟨nofun, ?_⟩
    rintro (⟨hq', -⟩ | ⟨hb', -⟩ | ⟨hb', -⟩)
    · exact absurd hq hq'
    · exact absurd hb' hb
    · exact absurd hb' hb
  · by_cases hb : part.IsEncodedAs base64
    · by_cases ht : "text/".toList <+: mediaType
      · rw [bytes?_of_base64 hb ht]
        refine ⟨.undecodable hb, ?_⟩
        rintro (⟨-, hb'⟩ | ⟨-, ht'⟩ | ⟨-, hd⟩)
        · exact absurd hb hb'
        · exact absurd ht ht'
        · exact hd
      · have hd : (dropStart? "text/".toList mediaType).isSome = false :=
          Bool.eq_false_iff.mpr (mt isSome_dropStart_iff.mp ht)
        rw [bytes?_of_not_quotedPrintable hq, hd, Bool.and_false]
        exact ⟨fun _ => .binary hb ht, fun _ => rfl⟩
    · have he : Text.same (Text.trim part.encoding) base64 = false :=
        Bool.eq_false_iff.mpr (mt isEncodedAs_base64.mpr hb)
      rw [bytes?_of_not_quotedPrintable hq, he, Bool.false_and]
      exact ⟨fun _ => .plain hq hb, fun _ => rfl⟩

instance (mediaType : Text) (part : Part) : Decidable (part.IsKept mediaType) :=
  decidable_of_iff _ bytes?_eq_none_iff

inductive IsWritten (mediaType : Text) (bs : Bytes) (part : Part) : Prop
  | base64 (htext : "text/".toList <+: mediaType) (hname : part.IsEncodedAs base64)
      (hbody : Base64.IsWritten bs part.body)
  | quotedPrintable (hname : part.IsEncodedAs quotedPrintable)
      (hbody : QuotedPrintable.IsWritten bs part.body)

theorem bytes?_of_isWritten {bs : Bytes} (h : part.IsWritten mediaType bs) :
    part.bytes? mediaType = some bs := by
  cases h with
  | base64 htext hname hbody =>
    rw [bytes?_of_base64 hname htext, ← Text.flatten_words, Base64.decode?_of_isWritten hbody]
  | quotedPrintable hname hbody =>
    rw [bytes?_of_quotedPrintable hname, QuotedPrintable.decode_of_isWritten hbody]

variable [Charset.Library]

theorem decode_of_isKept (h : part.IsKept mediaType) : part.decode mediaType = part := by
  rw [decode, bytes?_eq_none_iff.mpr h]

theorem decode_of_bytes {bs : Bytes} (h : part.bytes? mediaType = some bs) :
    part.decode mediaType = {
      charset := defaultCharset
      encoding := "8bit".toList
      body := (Charset.decodeNamed? part.charset bs).getD (Utf8.decodeLossy bs) } := by
  rw [decode, h]

theorem decode_decode (mediaType : Text) (part : Part) :
    (part.decode mediaType).decode mediaType = part.decode mediaType := by
  cases h : part.bytes? mediaType with
  | none =>
    have hkept := bytes?_eq_none_iff.mp h
    rw [decode_of_isKept hkept, decode_of_isKept hkept]
  | some bs =>
    rw [decode_of_bytes h]
    rfl

end

end Part

namespace Content

section

variable [Charset.Library]

theorem get?_decode (content : Content) (key : Text) :
    content.decode.get? key = (content.get? key).map (Part.decode key) := by
  have hkey : ((fun entry : Text × Part => decide (entry.1 = key)) ∘
      fun entry : Text × Part => (entry.1, Part.decode entry.1 entry.2)) =
      fun entry => decide (entry.1 = key) := rfl
  rw [decode, map, get?, get?, List.find?_map, hkey]
  cases hf : content.parts.find? (·.1 = key) with
  | none => rfl
  | some entry =>
    have hk : entry.1 = key := by simpa using List.find?_some hf
    rw [← hk]
    rfl

theorem types_decode (content : Content) : content.decode.types = content.types := by
  rw [types, decode, map, List.map_map]
  rfl

theorem decode_decode (content : Content) : content.decode.decode = content.decode := by
  apply ext_get?
  intro key
  rw [get?_decode, get?_decode, Option.map_map]
  congr 1
  funext part
  exact Part.decode_decode key part

theorem decode_partwise (content : Content) :
    content.decode.types = content.types ∧
      (∀ key, content.decode.get? key = (content.get? key).map (Part.decode key)) ∧
      (∀ key part, Part.IsKept key part → part.decode key = part) ∧
      (∀ key part, ¬ Part.IsKept key part → ∃ bs, part.bytes? key = some bs ∧
        part.decode key = {
          charset := defaultCharset
          encoding := "8bit".toList
          body := (Charset.decodeNamed? part.charset bs).getD (Utf8.decodeLossy bs) }) ∧
      content.decode.decode = content.decode := by
  refine ⟨types_decode content, get?_decode content, fun _ _ => Part.decode_of_isKept, ?_,
    decode_decode content⟩
  intro key part h
  obtain ⟨bs, hbs⟩ := Option.ne_none_iff_exists'.mp (mt Part.bytes?_eq_none_iff.mp h)
  exact ⟨bs, hbs, Part.decode_of_bytes hbs⟩

end

theorem decode_partwise_mixed :
    let broken : Part := { encoding := " Base64".toList, body := "YQ===".toList }
    let image : Part := { encoding := Part.base64, body := "YQ==".toList }
    let escaped : Part := { body := "=3D62".toList }
    let content := ofParts [("text/html".toList, broken), ("image/png".toList, image),
      (plainText, escaped)]
    Part.IsKept "text/html".toList broken ∧ broken.decode "text/html".toList = broken ∧
      Part.IsKept "image/png".toList image ∧ image.decode "image/png".toList = image ∧
      ¬ Part.IsKept plainText escaped ∧
      (∃ bs, escaped.bytes? plainText = some bs ∧
        escaped.decode plainText = {
          charset := defaultCharset
          encoding := "8bit".toList
          body := (Charset.decodeNamed? escaped.charset bs).getD (Utf8.decodeLossy bs) }) ∧
      content.decode.decode = content.decode := by
  intro broken image escaped content
  obtain ⟨-, -, hkept, hother, htwice⟩ := decode_partwise content
  have hbroken : Part.IsKept "text/html".toList broken := by decide +kernel
  have himage : Part.IsKept "image/png".toList image := by decide +kernel
  have hescaped : ¬ Part.IsKept plainText escaped := by decide +kernel
  exact ⟨hbroken, hkept _ _ hbroken, himage, hkept _ _ himage, hescaped, hother _ _ hescaped, htwice⟩

theorem decode_written [Charset.Library] {content : Content} {key : Text} {part : Part}
    {charset : Charset} {bs : Bytes} (hget : content.get? key = some part)
    (hknown : Charset.ofName? part.charset = some charset) (hwritten : part.IsWritten key bs) :
    ∃ text, Charset.decodeNamed? part.charset bs = some text ∧
      content.decode.get? key =
        some { charset := defaultCharset, encoding := "8bit".toList, body := text } := by
  obtain ⟨text, htext⟩ := Charset.exists_decodeNamed hknown bs
  refine ⟨text, htext, ?_⟩
  rw [get?_decode, hget, Option.map_some, Part.decode_of_bytes (Part.bytes?_of_isWritten hwritten),
    htext, Option.getD_some]

theorem decode_written_twice :
    let cyrillic : Part :=
      { charset := "ibm866".toList, encoding := " BASE64".toList, body := "h K\tA".toList }
    let german : Part :=
      { charset := "utf8*de".toList, encoding := "Quoted-Printable ".toList,
        body := "h=C3=\r\n=b6".toList }
    let content := ofParts [("text/html".toList, cyrillic), ("image/svg".toList, german)]
    cyrillic.IsWritten "text/html".toList [0x84, 0xA0] ∧
      (∃ text, Charset.decodeNamed? cyrillic.charset [0x84, 0xA0] = some text ∧
        content.decode.get? "text/html".toList = some
          { charset := defaultCharset, encoding := "8bit".toList, body := text }) ∧
      german.IsWritten "image/svg".toList [0x68, 0xC3, 0xB6] ∧
      content.decode.get? "image/svg".toList = some
        { charset := defaultCharset, encoding := "8bit".toList, body := "hö".toList } := by
  intro cyrillic german content
  have hcyrillic : cyrillic.IsWritten "text/html".toList [0x84, 0xA0] :=
    .base64 (by decide +kernel) (Part.isEncodedAs_base64.mpr (by decide +kernel)) (by decide +kernel)
  have hbody : QuotedPrintable.IsWritten [0x68, 0xC3, 0xB6] "h=C3=\r\n=b6".toList :=
    .literal (c := 'h') rfl (by decide) <| .escape (x := 'C') (y := '3') (m := 12) (n := 3) rfl rfl <|
      .softBreak (.inr rfl) <| .escape (x := 'b') (y := '6') (m := 11) (n := 6) rfl rfl .nil
  have hgerman : german.IsWritten "image/svg".toList [0x68, 0xC3, 0xB6] :=
    .quotedPrintable (Part.isEncodedAs_quotedPrintable.mpr (by decide +kernel)) hbody
  have hhtml : content.get? "text/html".toList = some cyrillic := by decide +kernel
  have hsvg : content.get? "image/svg".toList = some german := by decide +kernel
  obtain ⟨t, ht, hshown⟩ := decode_written hsvg rfl hgerman
  obtain rfl : t = "hö".toList := Option.some.inj (ht.symm.trans (by decide +kernel))
  exact ⟨hcyrillic, decode_written hhtml rfl hcyrillic, hgerman, hshown⟩

end Content

end MimeMail
