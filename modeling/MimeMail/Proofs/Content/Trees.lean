import MimeMail.Content.Read
import MimeMail.Proofs.Content.Entities
import MimeMail.Proofs.Header.Descriptors

namespace MimeMail

structure Entity.IsLeafHead (lines : List Text) (fields : List Field) (m : MediaType) : Prop where
  ascii : ∀ line ∈ lines.head?, ∀ c ∈ line.head?, c.toNat < 128
  writes : List.Forall₂ Field.Writes lines fields
  mediaType : (FieldMap.ofFields fields).mediaType? = some m
  single : m.isMultipart = false

theorem Entity.IsLeafHead.essence_ne_nil {lines : List Text} {fields : List Field} {m : MediaType}
    (h : Entity.IsLeafHead lines fields m) : m.essence ≠ [] := by
  obtain ⟨v, -, hv⟩ := Descriptor.read_of_mediaType h.mediaType
  exact (MediaType.isEssence_of_read hv).1.ne_nil

namespace Content

variable [Charset.Library]

theorem ofMultipart_eq (depth : ℕ) (boundary : Text) (body : Bytes) :
    ofMultipart depth boundary body =
      ofParts ((Multipart.split boundary body).flatMap (leavesOf (leaves (depth - 1)))) := by
  have hdepth : max 1 depth = depth - 1 + 1 := by omega
  rw [ofMultipart, hdepth, leaves]

theorem leavesOf_of_leaf {inner : Text → Bytes → List (Text × Part)} {raw : Bytes} {key : Text}
    {part : Part} (h : component? raw = some (.leaf key part)) :
    leavesOf inner raw = [(key, part)] := by
  rw [leavesOf, h]

theorem leavesOf_of_nested {inner : Text → Bytes → List (Text × Part)} {raw body : Bytes}
    {boundary : Text} (h : component? raw = some (.nested boundary body)) :
    leavesOf inner raw = inner boundary body := by
  rw [leavesOf, h]

section

variable {raw body : Bytes} {fields : FieldMap} {m : MediaType}
  (hraw : Entity.ofPart? raw = some (fields, body)) (hm : fields.mediaType? = some m)
  (hne : m.essence ≠ [])
include hraw hm hne

theorem component?_of_single (hs : m.isMultipart = false) :
    component? raw = some (.leaf m.essence (leaf fields body)) := by
  rw [component?, hraw]
  dsimp only
  rw [Descriptor.mediaType_of_some hm, Descriptor.isMultipart_of_some hm,
    if_neg (by simpa using hne), if_neg (by simp [hs])]

theorem component?_of_multipart {boundary : Text} (hs : m.isMultipart = true)
    (hb : m.param? "boundary".toList = some boundary) (hn : boundary ≠ []) :
    component? raw = some (.nested boundary body) := by
  have hboundary : (Descriptor.ofFields fields).boundary = boundary := by
    rw [Descriptor.boundary_of_some hm, if_pos hs, hb, Option.getD_some]
  rw [component?, hraw]
  dsimp only
  rw [Descriptor.mediaType_of_some hm, Descriptor.isMultipart_of_some hm,
    if_neg (by simpa using hne), if_pos hs, hboundary, if_neg (by simpa using hn)]

end

theorem component?_write {lines : List Text} {fields : List Field} {m : MediaType} (body : Bytes)
    (h : Entity.IsLeafHead lines fields m) :
    component? (Entity.write lines body) =
      some (.leaf m.essence (leaf (FieldMap.ofFields fields) body)) := by
  have hne := h.essence_ne_nil
  obtain ⟨hascii, hwrites, hm, hs⟩ := h
  cases hwrites with
  | nil => cases hm
  | @cons line field lines fields hw hrest =>
    have hread := Entity.ofPart?_write (hascii line rfl) (.cons hw hrest) body
    exact component?_of_single hread hm hne hs

end Content

inductive EntityTree where
  | leaf (mediaType encoding body : Text)
  | node (mediaType boundary : Text) (preamble : Bytes) (children : List EntityTree)
      (epilogue : Bytes)

namespace EntityTree

def typeLine (mediaType name value : Text) : Text :=
  "Content-Type: ".toList ++ MediaType.withParam mediaType name value

mutual

def render : EntityTree → Bytes
  | leaf mediaType encoding body =>
    Entity.write [typeLine mediaType "charset".toList defaultCharset,
      "Content-Transfer-Encoding: ".toList ++ encoding] (Utf8.encode body)
  | node mediaType boundary preamble children epilogue =>
    Entity.write [typeLine mediaType "boundary".toList boundary]
      (Multipart.write boundary preamble (renderAll children) epilogue)

def renderAll : List EntityTree → List Bytes
  | [] => []
  | tree :: trees => render tree :: renderAll trees

end

mutual

/-- The leaves in order, each with the number of multipart bodies that it lies in. The tree itself
lies in `depth` of them. -/
def leaves (depth : ℕ) : EntityTree → List (ℕ × Text × Part)
  | leaf mediaType encoding body =>
    [(depth, mediaType, { charset := defaultCharset, encoding, body })]
  | node _ _ _ children _ => leavesAll (depth + 1) children

def leavesAll (depth : ℕ) : List EntityTree → List (ℕ × Text × Part)
  | [] => []
  | tree :: trees => leaves depth tree ++ leavesAll depth trees

end

def within (limit : ℕ) (entries : List (ℕ × Text × Part)) : List (Text × Part) :=
  (entries.filter (·.1 ≤ limit)).map (·.2)

inductive IsWellFormed : EntityTree → Prop
  | leaf {mediaType encoding body : Text} (htype : MediaType.IsEssence mediaType)
      (hsingle : MediaType.namesMultipart mediaType = false) (htrim : Text.IsTrimmed encoding)
      (hline : Text.IsLine encoding) :
      IsWellFormed (leaf mediaType encoding body)
  | node {mediaType boundary : Text} {preamble epilogue : Bytes} {children : List EntityTree}
      (htype : MediaType.IsType mediaType)
      (hmulti : MediaType.namesMultipart (Text.lowercase mediaType) = true)
      (hne : boundary ≠ []) (hline : Text.IsLine boundary)
      (hlast : ∀ b ∈ (Utf8.encode boundary).getLast?, Multipart.isBlank b = false)
      (hbreak : ∀ b ∈ preamble.getLast?, b = 0x0A)
      (hpreamble : Multipart.Avoids boundary preamble)
      (hrendered : ∀ child ∈ children, Multipart.Avoids boundary child.render)
      (hchildren : ∀ child ∈ children, IsWellFormed child) :
      IsWellFormed (node mediaType boundary preamble children epilogue)

theorem renderAll_eq_map (trees : List EntityTree) : renderAll trees = trees.map render := by
  induction trees with
  | nil => rfl
  | cons tree trees ih => rw [renderAll, ih, List.map_cons]

theorem leavesAll_eq_flatMap (depth : ℕ) (trees : List EntityTree) :
    leavesAll depth trees = trees.flatMap (leaves depth) := by
  induction trees with
  | nil => rfl
  | cons tree trees ih => rw [leavesAll, ih, List.flatMap_cons]

theorem within_flatMap (limit : ℕ) (trees : List EntityTree)
    (f : EntityTree → List (ℕ × Text × Part)) :
    within limit (trees.flatMap f) = trees.flatMap fun tree => within limit (f tree) := by
  rw [within, List.filter_flatMap, List.map_flatMap]
  rfl

theorem within_eq_nil {limit : ℕ} {entries : List (ℕ × Text × Part)}
    (h : ∀ entry ∈ entries, limit < entry.1) : within limit entries = [] := by
  rw [within, List.map_eq_nil_iff, List.filter_eq_nil_iff]
  intro entry he
  have hl := h entry he
  simpa using hl

theorem typeLine_eq (mediaType name value : Text) :
    typeLine mediaType name value =
      "Content-Type".toList ++ ':' :: ' ' :: MediaType.withParam mediaType name value := by
  unfold typeLine
  generalize MediaType.withParam mediaType name value = v
  simp

theorem writes_typeLine {mediaType name : Text} (value : Text) (h : MediaType.IsType mediaType)
    (hn : Text.IsLine name) :
    Field.Writes (typeLine mediaType name value)
      ⟨"content-type".toList, MediaType.withParam mediaType name value⟩ := by
  rw [typeLine_eq]
  exact Descriptor.writes_withParam value h hn

theorem mediaType?_cons {mediaType name : Text} (value : Text) (rest : List Field)
    (h : MediaType.IsType mediaType) (hn : MediaType.isToken name = true)
    (hu : ∀ c ∈ name, c.isUpper = false) :
    (FieldMap.ofFields (⟨"content-type".toList, MediaType.withParam mediaType name value⟩ ::
      rest)).mediaType? = some ⟨Text.lowercase mediaType, [(name, Text.oneLine value)]⟩ := by
  have hs : Text.same "content-type".toList "content-type".toList = true := rfl
  rw [FieldMap.mediaType?, FieldMap.first?_ofFields, List.find?_cons]
  simp only [hs, Option.map_some, Option.bind_some]
  rw [MediaType.ofText, h.read_withParam value hn hu]
  rfl

theorem head?_typeLine (mediaType name value : Text) :
    ∀ c ∈ (typeLine mediaType name value).head?, c.toNat < 128 := by
  rw [typeLine_eq]
  intro c hc
  have hC : c = 'C' := by simpa using hc.symm
  rw [hC]
  decide

theorem split_write {boundary : Text} {preamble : Bytes} {children : List EntityTree}
    (epilogue : Bytes) (hb : Multipart.IsBoundary boundary)
    (hbreak : ∀ b ∈ preamble.getLast?, b = 0x0A) (hpre : Multipart.Avoids boundary preamble)
    (hrendered : ∀ child ∈ children, Multipart.Avoids boundary child.render) :
    Multipart.split boundary (Multipart.write boundary preamble (renderAll children) epilogue) =
      children.map render := by
  have hparts : ∀ part ∈ children.map render, Multipart.Avoids boundary part := by
    intro part hp
    obtain ⟨child, hc, rfl⟩ := List.mem_map.mp hp
    exact hrendered child hc
  rw [renderAll_eq_map, Multipart.split_write hb hbreak hpre hparts]

theorem IsWellFormed.le_depth {tree : EntityTree} (h : tree.IsWellFormed) (depth : ℕ) :
    ∀ entry ∈ tree.leaves depth, depth ≤ entry.1 := by
  induction h generalizing depth with
  | leaf =>
    intro entry he
    rw [leaves, List.mem_singleton] at he
    rw [he]
  | node _ _ _ _ _ _ _ _ _ ih =>
    intro entry he
    rw [leaves, leavesAll_eq_flatMap] at he
    obtain ⟨child, hc, he⟩ := List.mem_flatMap.mp he
    have hd := ih child hc (depth + 1) entry he
    omega

theorem isBoundary_of_isLine {boundary : Text} (hl : Text.IsLine boundary)
    (hlast : ∀ b ∈ (Utf8.encode boundary).getLast?, Multipart.isBlank b = false) :
    Multipart.IsBoundary boundary := ⟨fun hm => (hl _ hm).2 rfl, hlast⟩

section

variable [Charset.Library]

theorem leaf_eq {fields : FieldMap} {mediaType encoding : Text} (body : Text)
    (hm : fields.mediaType? = some ⟨mediaType, [("charset".toList, defaultCharset)]⟩)
    (he : fields.first? "content-transfer-encoding".toList = some encoding)
    (htrim : Text.IsTrimmed encoding) :
    Content.leaf fields (Utf8.encode body) = { charset := defaultCharset, encoding, body } := by
  have hp : MediaType.param? ⟨mediaType, [("charset".toList, defaultCharset)]⟩ "charset".toList =
      some defaultCharset := rfl
  have hc : (some defaultCharset).filter (!·.isEmpty) = some defaultCharset := rfl
  have hd : Charset.decodeNamed? defaultCharset (Utf8.encode body) = some body := by
    have hu := Charset.decodeNamed?_utf8 (Utf8.encode body)
    rwa [Utf8.decodeLossy_encode] at hu
  have hen : (Descriptor.ofFields fields).encoding = encoding := by
    rw [Descriptor.encoding_ofFields, he]
    exact htrim
  unfold Content.leaf
  dsimp only
  rw [hm, Option.bind_some, hp, hc, hen, Option.bind_some, hd]
  rfl

theorem component?_leaf {mediaType encoding : Text} (body : Text)
    (ht : MediaType.IsEssence mediaType) (hs : MediaType.namesMultipart mediaType = false)
    (he : Text.IsTrimmed encoding) (hl : Text.IsLine encoding) :
    Content.component? (leaf mediaType encoding body).render =
      some (.leaf mediaType { charset := defaultCharset, encoding, body }) := by
  have hname : Text.IsLine "charset".toList := by simp
  have htoken : MediaType.isToken "charset".toList = true := rfl
  have hwrites := List.Forall₂.cons (writes_typeLine defaultCharset ht.toIsType hname)
    (.cons (Descriptor.writes_encoding he hl) .nil)
  have hm := mediaType?_cons defaultCharset
    [⟨"content-transfer-encoding".toList, encoding⟩] ht.toIsType htoken (by simp)
  rw [ht.lowercase] at hm
  have hascii : ∀ line ∈ [typeLine mediaType "charset".toList defaultCharset,
      "Content-Transfer-Encoding: ".toList ++ encoding].head?, ∀ c ∈ line.head?, c.toNat < 128 := by
    rintro line ⟨⟩
    exact head?_typeLine _ _ _
  rw [render, Content.component?_write _ ⟨hascii, hwrites, hm, hs⟩, leaf_eq body hm ?_ he]
  rw [FieldMap.first?_ofFields]
  simp [Text.same]

theorem component?_node {mediaType boundary : Text} (preamble epilogue : Bytes)
    (children : List EntityTree) (ht : MediaType.IsType mediaType)
    (hm : MediaType.namesMultipart (Text.lowercase mediaType) = true) (hne : boundary ≠ [])
    (hl : Text.IsLine boundary) :
    Content.component? (node mediaType boundary preamble children epilogue).render =
      some (.nested boundary (Multipart.write boundary preamble (renderAll children) epilogue)) := by
  have hname : Text.IsLine "boundary".toList := by simp
  have htoken : MediaType.isToken "boundary".toList = true := rfl
  have hwrites := List.Forall₂.cons (writes_typeLine boundary ht hname) .nil
  have hread := Entity.ofPart?_write (head?_typeLine _ _ _) hwrites
    (Multipart.write boundary preamble (renderAll children) epilogue)
  have htype := mediaType?_cons boundary [] ht htoken (by simp)
  rw [Text.oneLine_eq_self hl] at htype
  rw [render]
  exact Content.component?_of_multipart hread htype ht.lowercase.ne_nil hm rfl hne

theorem leavesOf_render {tree : EntityTree} (h : tree.IsWellFormed) (levels depth : ℕ) :
    Content.leavesOf (Content.leaves levels) tree.render =
      within (depth + levels) (tree.leaves depth) := by
  induction h generalizing levels depth with
  | leaf ht hs he hl =>
    rw [Content.leavesOf_of_leaf (component?_leaf _ ht hs he hl)]
    simp [within, leaves]
  | node ht hm hne hl hlast hbreak hpre hrendered hchildren ih =>
    rw [Content.leavesOf_of_nested (component?_node _ _ _ ht hm hne hl)]
    cases levels with
    | zero =>
      -- No level is left, and what lies below is deeper than the tree itself.
      rw [Content.leaves, leaves, leavesAll_eq_flatMap, within_eq_nil]
      intro entry he
      obtain ⟨child, hc, he⟩ := List.mem_flatMap.mp he
      exact (hchildren child hc).le_depth (depth + 1) entry he
    | succ levels =>
      have hb := isBoundary_of_isLine hl hlast
      rw [Content.leaves, split_write _ hb hbreak hpre hrendered, List.flatMap_map, leaves,
        leavesAll_eq_flatMap, within_flatMap]
      apply List.flatMap_congr
      intro child hc
      rw [ih child hc levels (depth + 1)]
      congr 1
      omega

theorem ofMultipart_write {mediaType boundary : Text} {preamble epilogue : Bytes}
    {children : List EntityTree}
    (h : (node mediaType boundary preamble children epilogue).IsWellFormed) (maxDepth : ℕ) :
    Content.ofMultipart maxDepth boundary
        (Multipart.write boundary preamble (renderAll children) epilogue) =
      Content.ofParts (within (max 1 maxDepth) (leavesAll 1 children)) := by
  cases h with
  | node ht hm hne hl hlast hbreak hpre hrendered hchildren =>
    have hb := isBoundary_of_isLine hl hlast
    have hmax : max 1 maxDepth = 1 + (maxDepth - 1) := by omega
    rw [Content.ofMultipart_eq, split_write _ hb hbreak hpre hrendered, List.flatMap_map,
      leavesAll_eq_flatMap, within_flatMap, hmax]
    congr 1
    apply List.flatMap_congr
    intro child hc
    exact leavesOf_render (hchildren child hc) (maxDepth - 1) 1

end

def nested : List EntityTree :=
  [leaf "text/plain".toList "8bit".toList ['h', 'i'],
    node "multipart/alternative".toList ['b', '"'] []
      [leaf "text/html".toList "8bit".toList ['x']] []]

theorem isWellFormed_nested :
    (node "multipart/mixed".toList ['b'] [] nested []).IsWellFormed := by
  have h8 : Text.IsTrimmed "8bit".toList ∧ Text.IsLine "8bit".toList := ⟨rfl, by simp⟩
  have hplain : MediaType.IsEssence "text/plain".toList :=
    ⟨⟨"text".toList, "plain".toList, rfl, rfl, rfl⟩, by simp⟩
  have hhtml : MediaType.IsEssence "text/html".toList :=
    ⟨⟨"text".toList, "html".toList, rfl, rfl, rfl⟩, by simp⟩
  have hmixed : MediaType.IsType "multipart/mixed".toList :=
    ⟨"multipart".toList, "mixed".toList, rfl, rfl, rfl⟩
  have halternative : MediaType.IsType "multipart/alternative".toList :=
    ⟨"multipart".toList, "alternative".toList, rfl, rfl, rfl⟩
  have hinner : IsWellFormed (node "multipart/alternative".toList ['b', '"'] []
      [leaf "text/html".toList "8bit".toList ['x']] []) := by
    refine .node halternative rfl (by simp) (by simp) ?_ (by simp) ?_ ?_ ?_
    · decide +kernel
    · decide +kernel
    · decide +kernel
    · intro child hc
      rw [List.mem_singleton.mp hc]
      exact .leaf hhtml rfl h8.1 h8.2
  refine .node hmixed rfl (by simp) (by simp) ?_ (by simp) ?_ ?_ ?_
  · decide +kernel
  · decide +kernel
  · decide +kernel
  · intro child hc
    rcases List.mem_cons.mp hc with rfl | hc
    · exact .leaf hplain rfl h8.1 h8.2
    · rw [List.mem_singleton.mp hc]
      exact hinner

theorem ofMultipart_write_nested :
    Content.ofMultipart 1 ['b'] (Multipart.write ['b'] [] (renderAll nested) []) =
        Content.ofParts [("text/plain".toList, { encoding := "8bit".toList, body := ['h', 'i'] })] ∧
      Content.ofMultipart 2 ['b'] (Multipart.write ['b'] [] (renderAll nested) []) =
        Content.ofParts [("text/plain".toList, { encoding := "8bit".toList, body := ['h', 'i'] }),
          ("text/html".toList, { encoding := "8bit".toList, body := ['x'] })] :=
  ⟨ofMultipart_write isWellFormed_nested 1, ofMultipart_write isWellFormed_nested 2⟩

end EntityTree

end MimeMail
