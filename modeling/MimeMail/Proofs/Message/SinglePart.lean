import MimeMail.Message.Basic
import MimeMail.Proofs.Content.Leaves
import MimeMail.Proofs.Message.Records

/-!
A leaf entity as the body of a message and as the only part of a multipart message. Both are shown
by one rule, in which the message of one part passes over the charset that its header declares.
-/

namespace MimeMail.Part

open Charset (readAs)

variable [Charset.Library]

def shown (mediaType encoding : Text) (name? : Option Text) (body : Bytes) : Text :=
  let text := readAs name? Charset.decodeRaw body
  match bytes? mediaType { encoding, body := text } with
  | some bs => readAs name? Utf8.decodeLossy bs
  | none => text

theorem body_decode (mediaType encoding : Text) (name? : Option Text) (body : Bytes) :
    (decode mediaType {
      charset := name?.getD defaultCharset
      encoding
      body := readAs name? Charset.decodeRaw body }).body = shown mediaType encoding name? body := by
  have hcharset : ∀ bs, (Charset.decodeNamed? (name?.getD defaultCharset) bs).getD
      (Utf8.decodeLossy bs) = readAs name? Utf8.decodeLossy bs := by
    intro bs
    cases name? with
    | none =>
      -- A part without a charset is labelled UTF-8, and the label reads bytes as no label does.
      change (Charset.decodeNamed? "UTF-8".toList bs).getD _ = _
      rw [Charset.decodeNamed?_utf8]
      rfl
    | some name => rfl
  have hbytes : bytes? mediaType {
      charset := name?.getD defaultCharset
      encoding
      body := readAs name? Charset.decodeRaw body } =
      bytes? mediaType { encoding, body := readAs name? Charset.decodeRaw body } := rfl
  unfold decode shown
  dsimp only
  rw [hbytes]
  cases bytes? mediaType { encoding, body := readAs name? Charset.decodeRaw body } with
  | none => rfl
  | some bs => exact hcharset bs

/-- A declared charset that changes nothing about a body, of which `coded?` is what its text is the
encoding of. -/
inductive IsNeutral (coded? : Option Bytes) (body : Bytes) (name : Text) : Prop
  | unknown (hname : Charset.ofName? name = none)
  | utf8 {t : Text} (hname : Charset.namesUtf8 name = true) (hmark : t.head? ≠ some '\uFEFF')
      (hbody : Utf8.encode t = body)
  | ascii {charset : Charset} (hname : Charset.ofName? name = some charset)
      (hcompatible : charset.isAsciiCompatible = true) (hbody : ∀ b ∈ body, b < 0x80)
      (hcoded : ∀ bs ∈ coded?, ∀ b ∈ bs, b < 0x80)

theorem IsNeutral.readAs_eq {coded? : Option Bytes} {body : Bytes} {name : Text}
    (h : IsNeutral coded? body name) :
    readAs (some name) Charset.decodeRaw body = Charset.decodeRaw body ∧
      ∀ bs ∈ coded?, readAs (some name) Utf8.decodeLossy bs = Utf8.decodeLossy bs := by
  unfold readAs
  simp only [Option.bind_some]
  cases h with
  | unknown hname =>
    simp only [Charset.decodeNamed?_of_unknown hname, Option.getD_none, implies_true, and_self]
  | @utf8 t hname hmark hbody =>
    refine ⟨?_, fun bs _ => ?_⟩
    · rw [Charset.decodeNamed?_of_namesUtf8 hname, Option.getD_some, ← hbody,
        Utf8.decodeLossy_encode, Charset.decodeRaw_encode, Text.withoutMark_eq_self hmark]
    · rw [Charset.decodeNamed?_of_namesUtf8 hname, Option.getD_some]
  | ascii hname hcompatible hbody hcoded =>
    refine ⟨?_, fun bs hbs => ?_⟩
    · obtain ⟨t, ht, rfl⟩ := Charset.exists_encode_of_lt hbody
      rw [Charset.decodeNamed?_encode_of_lt hname hcompatible ht, Option.getD_some,
        Charset.decodeRaw_encode, Charset.withoutMark_of_lt ht]
    · obtain ⟨t, ht, rfl⟩ := Charset.exists_encode_of_lt (hcoded bs hbs)
      rw [Charset.decodeNamed?_encode_of_lt hname hcompatible ht, Option.getD_some,
        Utf8.decodeLossy_encode]

theorem shown_of_isNeutral {mediaType encoding name : Text} {body : Bytes}
    (h : IsNeutral (bytes? mediaType { encoding, body := Charset.decodeRaw body }) body name) :
    shown mediaType encoding (some name) body = shown mediaType encoding none body := by
  obtain ⟨hbody, hcoded⟩ := h.readAs_eq
  have hnone : readAs none Charset.decodeRaw body = Charset.decodeRaw body := rfl
  unfold shown
  dsimp only
  rw [hbody, hnone]
  cases hb : bytes? mediaType { encoding, body := Charset.decodeRaw body } with
  | none => rfl
  | some bs => exact hcoded bs hb

end MimeMail.Part

namespace MimeMail.Content

variable [Charset.Library]

theorem ofBody_single {d : Descriptor} (hv : d.version.isZero = false) (hm : d.mediaType ≠ [])
    (hs : d.isMultipart = false) (depth : ℕ) (body : Bytes) :
    ofBody depth d body = single d.mediaType d.encoding body := by
  unfold ofBody
  rw [if_neg (by simp [hv]), if_pos (by simp [hs]), if_neg (by simpa using hm)]

theorem ofBody_multipart {d : Descriptor} (hv : d.version.isZero = false)
    (hm : d.isMultipart = true) (hb : d.boundary ≠ []) (depth : ℕ) (body : Bytes) :
    ofBody depth d body = ofMultipart depth d.boundary body := by
  unfold ofBody
  rw [if_neg (by simp [hv]), if_neg (by simp [hm]), if_neg (by simpa using hb)]

end MimeMail.Content

namespace MimeMail.Message

open Multipart (Avoids assemble)

def versionLine : Text := "MIME-Version: 1.0".toList

def versionField : Field := ⟨"mime-version".toList, "1.0".toList⟩

def mixedType : Text := "multipart/mixed".toList

def singlePart (lines : List Text) (body : Bytes) : Bytes := Entity.write (versionLine :: lines) body

def mixed (boundary : Text) (part : Bytes) : Bytes :=
  Entity.write [versionLine, EntityTree.typeLine mixedType "boundary".toList boundary]
    (assemble boundary [part])

theorem writes_versionLine : Field.Writes versionLine versionField := by
  have hline : Text.IsLine "1.0".toList := by simp
  exact Field.writes_line Descriptor.isName_version hline

theorem first?_version (fields : List Field) :
    (FieldMap.ofFields (versionField :: fields)).first? "mime-version".toList =
      some "1.0".toList := by
  have hs : Text.same versionField.name "mime-version".toList = true := rfl
  rw [FieldMap.first?_ofFields, List.find?_cons, hs]
  rfl

theorem first?_of_not_version (fields : List Field) {q : Text}
    (hq : Text.same "mime-version".toList q = false) :
    (FieldMap.ofFields (versionField :: fields)).first? q =
      (FieldMap.ofFields fields).first? q := by
  have hs : Text.same versionField.name q = false := hq
  rw [FieldMap.first?_ofFields, FieldMap.first?_ofFields, List.find?_cons, hs]

theorem ofFields_version (fields : List Field) :
    let d := Descriptor.ofFields (FieldMap.ofFields (versionField :: fields))
    let e := Descriptor.ofFields (FieldMap.ofFields fields)
    d.version.isZero = false ∧ d.mediaType = e.mediaType ∧ d.encoding = e.encoding ∧
      d.boundary = e.boundary := by
  have htype := first?_of_not_version fields (q := "content-type".toList) rfl
  have hencoding := first?_of_not_version fields (q := "content-transfer-encoding".toList) rfl
  have hv : (Descriptor.readVersion "1.0".toList).isZero = false := by decide +kernel
  dsimp only
  unfold Descriptor.ofFields FieldMap.mediaType?
  rw [first?_version, htype, hencoding]
  exact ⟨hv, rfl, rfl, rfl⟩

theorem isType_mixedType : MediaType.IsType mixedType :=
  ⟨"multipart".toList, "mixed".toList, rfl, rfl, rfl⟩

theorem ofFields_mixedType {boundary : Text} (hline : Text.IsLine boundary) :
    let d := Descriptor.ofFields (FieldMap.ofFields
      [⟨"content-type".toList, MediaType.withParam mixedType "boundary".toList boundary⟩])
    MediaType.namesMultipart d.mediaType = true ∧ d.boundary = boundary := by
  have htoken : MediaType.isToken "boundary".toList = true := rfl
  have hm := EntityTree.mediaType?_cons boundary [] isType_mixedType htoken (by simp)
  have hnames : MediaType.namesMultipart (Text.lowercase mixedType) = true := by decide +kernel
  have hmulti : MediaType.isMultipart
      ⟨Text.lowercase mixedType, [("boundary".toList, boundary)]⟩ = true := hnames
  rw [Text.oneLine_eq_self hline] at hm
  constructor
  · rw [Descriptor.mediaType_of_some hm]
    exact hnames
  · rw [Descriptor.boundary_of_some hm, if_pos hmulti]
    rfl

section

variable [Charset.Library]

def Shows (depth : ℕ) (raw : Bytes) (mediaType text : Text) : Prop :=
  ∃ m content part, ofBytes depth raw = .ok m ∧ m.content = some content ∧
    content.decode.parts = [(mediaType, part)] ∧ part.body = text

theorem ofBytes_write {lines : List Text} {fields : List Field}
    (hw : List.Forall₂ Field.Writes lines fields) (body : Bytes) (depth : ℕ) :
    ∃ m, ofBytes depth (Entity.write (versionLine :: lines) body) = .ok m ∧
      m.content = some (Content.ofBody depth
        (Descriptor.ofFields (FieldMap.ofFields (versionField :: fields))) body) := by
  have hall := List.Forall₂.cons writes_versionLine hw
  have hlines := Field.isBlock_of_writes hall
  have hblock := Lines.IsBlock.join (List.cons_ne_nil _ _) hlines
  have hascii : ∀ c ∈ versionLine.head?, c.toNat < 128 := by
    unfold versionLine
    simp
  have hread := Entity.decodeRaw_join hascii fun l hl => (hlines l hl).ne_nil
  have hheader := Header.ofBytes_of_ne_nil (mt Utf8.encode_eq_nil_iff.mp hblock.ne_nil)
  rw [hread, FieldMap.ofText, Field.ofText_join hall] at hheader
  have hm := ofBytes_of_split depth (Entity.split_block hblock body) hheader
  exact ⟨_, hm, rfl⟩

theorem shows_of_parts {raw body : Bytes} {depth : ℕ} {d : Descriptor} {m : Message}
    {mediaType : Text} {part : Part} (hm : ofBytes depth raw = .ok m)
    (hc : m.content = some (Content.ofBody depth d body))
    (hp : Content.ofBody depth d body = Content.ofParts [(mediaType, part)]) :
    Shows depth raw mediaType (Part.decode mediaType part).body := by
  refine ⟨m, _, Part.decode mediaType part, hm, hc, ?_, rfl⟩
  rw [hp]
  rfl

theorem shows_singlePart {lines : List Text} {fields : List Field} {m : MediaType} (body : Bytes)
    (depth : ℕ) (h : Entity.IsLeafHead lines fields m) :
    Shows depth (singlePart lines body) m.essence (Part.shown m.essence
      (Descriptor.ofFields (FieldMap.ofFields fields)).encoding none body) := by
  obtain ⟨hv, htype, hencoding, -⟩ := ofFields_version fields
  obtain ⟨message, hm, hc⟩ := ofBytes_write h.writes body depth
  rw [Descriptor.mediaType_of_some h.mediaType] at htype
  rw [← Part.body_decode]
  refine shows_of_parts hm hc ?_
  rw [Content.ofBody_single hv, htype, hencoding]
  · rfl
  · rw [htype]
    exact h.essence_ne_nil
  · rw [Descriptor.isMultipart, htype]
    exact h.single

theorem shows_mixed {boundary : Text} (hne : boundary ≠ []) (hline : Text.IsLine boundary)
    (hlast : ∀ b ∈ (Utf8.encode boundary).getLast?, Multipart.isBlank b = false)
    {lines : List Text} {fields : List Field} {m : MediaType} {body : Bytes} (depth : ℕ)
    (h : Entity.IsLeafHead lines fields m) (hpart : Avoids boundary (Entity.write lines body)) :
    Shows depth (mixed boundary (Entity.write lines body)) m.essence (Part.shown m.essence
      (Descriptor.ofFields (FieldMap.ofFields fields)).encoding
      (Content.charset? (FieldMap.ofFields fields)) body) := by
  have hb := EntityTree.isBoundary_of_isLine hline hlast
  have hone : ∀ part ∈ [Entity.write lines body], Avoids boundary part := by simpa using hpart
  have hname : Text.IsLine "boundary".toList := by simp
  have hwrites := EntityTree.writes_typeLine boundary isType_mixedType hname
  obtain ⟨hmulti, hmixed⟩ := ofFields_mixedType hline
  obtain ⟨hv, htype, -, hboundary⟩ := ofFields_version
    [⟨"content-type".toList, MediaType.withParam mixedType "boundary".toList boundary⟩]
  obtain ⟨message, hm, hc⟩ := ofBytes_write (.cons hwrites .nil)
    (assemble boundary [Entity.write lines body]) depth
  rw [← htype] at hmulti
  rw [hmixed] at hboundary
  rw [← Part.body_decode, ← Content.leaf_eq_readAs]
  refine shows_of_parts hm hc ?_
  rw [Content.ofBody_multipart hv hmulti (by rwa [hboundary]), hboundary,
    Content.ofMultipart_assemble hb hone, List.flatMap_singleton,
    Content.leavesOf_of_leaf (Content.component?_write body h)]

theorem singlePart_mixed {boundary : Text} (hne : boundary ≠ []) (hline : Text.IsLine boundary)
    (hlast : ∀ b ∈ (Utf8.encode boundary).getLast?, Multipart.isBlank b = false)
    {lines : List Text} {fields : List Field} {m : MediaType} {body : Bytes} (depth : ℕ)
    (h : Entity.IsLeafHead lines fields m) (hpart : Avoids boundary (Entity.write lines body)) :
    let encoding := (Descriptor.ofFields (FieldMap.ofFields fields)).encoding
    let name? := Content.charset? (FieldMap.ofFields fields)
    let coded? := Part.bytes? m.essence { encoding, body := Charset.decodeRaw body }
    Shows depth (singlePart lines body) m.essence (Part.shown m.essence encoding none body) ∧
      Shows depth (mixed boundary (Entity.write lines body)) m.essence
        (Part.shown m.essence encoding name? body) ∧
      ((∀ name ∈ name?, Part.IsNeutral coded? body name) →
        Part.shown m.essence encoding name? body = Part.shown m.essence encoding none body) := by
  intro encoding name? coded?
  refine ⟨shows_singlePart body depth h, shows_mixed hne hline hlast depth h hpart, fun hneutral => ?_⟩
  cases hn : name? with
  | none => rfl
  | some name => exact Part.shown_of_isNeutral (hneutral name hn)

end

theorem singlePart_mixed_ascii :
    Shows 10 (singlePart [Content.plainLine Content.latin1] [0x3D, 0x34, 0x31]) plainText ['A'] ∧
      Shows 10 (mixed ['b'] (Entity.write [Content.plainLine Content.latin1] [0x3D, 0x34, 0x31]))
        plainText ['A'] := by
  have hhead := Content.isLeafHead_latin1
  have hpart : Avoids ['b'] (Entity.write [Content.plainLine Content.latin1] [0x3D, 0x34, 0x31]) := by
    decide +kernel
  have hshown : Part.shown plainText defaultEncoding none [0x3D, 0x34, 0x31] = ['A'] := by
    decide +kernel
  obtain ⟨hsingle, hmixed, heq⟩ := singlePart_mixed (by decide) (by simp) (by decide +kernel) 10
    hhead hpart
  have hneutral := heq fun name hname => by
    rw [Content.charset?_latin1] at hname
    cases hname
    exact .ascii Content.ofName?_latin1 rfl (by simp) (by decide +kernel)
  rw [hneutral] at hmixed
  exact ⟨hshown ▸ hsingle, hshown ▸ hmixed⟩

theorem Shows.unique [Charset.Library] {depth : ℕ} {raw : Bytes} {mediaType s t : Text}
    (hs : Shows depth raw mediaType s) (ht : Shows depth raw mediaType t) : s = t := by
  obtain ⟨m, content, part, hm, hc, hp, rfl⟩ := hs
  obtain ⟨n, content', part', hn, hc', hp', rfl⟩ := ht
  obtain rfl := Except.ok.inj (hm.symm.trans hn)
  obtain rfl := Option.some.inj (hc.symm.trans hc')
  have hparts := hp.symm.trans hp'
  simp only [List.cons.injEq, Prod.mk.injEq, true_and, and_true] at hparts
  rw [hparts]

theorem decodeNamed?_latin1 [Charset.Library] (bs : Bytes) :
    Charset.decodeNamed? Content.latin1 bs = some (Charset.decode (.page CodePage.windows1252) bs) :=
  Charset.decodeNamed?_of_ofName Content.ofName?_latin1 nofun bs

theorem char_latin1 : CodePage.char CodePage.windows1252 0xE9 = 'é' := by
  unfold CodePage.windows1252
  simp only [String.toList_append]
  rfl

theorem shown_latin1 [Charset.Library] :
    Part.shown plainText defaultEncoding (some Content.latin1) [0x3D, 0x45, 0x39] = ['é'] := by
  have htext : Charset.readAs (some Content.latin1) Charset.decodeRaw [0x3D, 0x45, 0x39] =
      ['=', 'E', '9'] := by
    rw [Charset.readAs, Option.bind_some, decodeNamed?_latin1]
    rfl
  have hbytes : Part.bytes? plainText
      { encoding := defaultEncoding, body := ['=', 'E', '9'] } = some [0xE9] := by
    decide +kernel
  have hread : Charset.readAs (some Content.latin1) Utf8.decodeLossy [0xE9] =
      [CodePage.char CodePage.windows1252 0xE9] := by
    rw [Charset.readAs, Option.bind_some, decodeNamed?_latin1]
    rfl
  unfold Part.shown
  dsimp only
  rw [htext, hbytes]
  dsimp only
  rw [hread, char_latin1]

theorem singlePart_differs :
    ¬ ∃ text, Shows 10 (singlePart [Content.plainLine Content.latin1] [0x3D, 0x45, 0x39]) plainText
        text ∧
      Shows 10 (mixed ['b'] (Entity.write [Content.plainLine Content.latin1] [0x3D, 0x45, 0x39]))
        plainText text := by
  rintro ⟨text, hsingle, hmixed⟩
  have hhead := Content.isLeafHead_latin1
  have hpart : Avoids ['b'] (Entity.write [Content.plainLine Content.latin1] [0x3D, 0x45, 0x39]) := by
    decide +kernel
  have hs := hsingle.unique (shows_singlePart [0x3D, 0x45, 0x39] 10 hhead)
  have hm := hmixed.unique (shows_mixed (by decide) (by simp) (by decide +kernel) 10 hhead hpart)
  have hnone : Part.shown plainText defaultEncoding none [0x3D, 0x45, 0x39] = ['\uFFFD'] := by
    decide +kernel
  rw [Content.charset?_latin1] at hm
  exact absurd (hnone.symm.trans (hs.symm.trans (hm.trans shown_latin1))) (by decide)

end MimeMail.Message
