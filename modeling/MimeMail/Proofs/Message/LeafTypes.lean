import MimeMail.Proofs.Content.Levels
import MimeMail.Proofs.Message.LineBreaks
import MimeMail.Proofs.Message.SinglePart

namespace MimeMail

structure IsLeafType (key : Text) : Prop extends MediaType.IsEssence key where
  single : ¬ "multipart".toList <:+: key

theorem isLeafType_plainText : IsLeafType plainText where
  toIsEssence := by
    have hlower : Text.lowercase plainText = plainText := by decide +kernel
    have hplain := Content.isType_plainText.lowercase
    rwa [hlower] at hplain
  single := MediaType.namesMultipart_eq_false_iff.mp rfl

namespace Descriptor

theorem IsReadable.isLeafType {d : Descriptor} (h : d.IsReadable) (hne : d.mediaType ≠ [])
    (hs : d.isMultipart = false) : IsLeafType d.mediaType where
  toIsEssence := h.mediaType.resolve_left hne
  single := MediaType.namesMultipart_eq_false_iff.mp hs

def onlyType (d : Descriptor) : Text :=
  if d.version.isZero || d.isMultipart || d.mediaType.isEmpty then plainText else d.mediaType

theorem IsReadable.isLeafType_onlyType {d : Descriptor} (h : d.IsReadable) :
    IsLeafType d.onlyType := by
  rw [onlyType]
  split
  · exact isLeafType_plainText
  · next hd =>
    simp only [Bool.or_eq_true, not_or, Bool.not_eq_true, List.isEmpty_eq_false_iff] at hd
    exact h.isLeafType hd.2 hd.1.2

end Descriptor

namespace Content

theorem types_single (mediaType encoding : Text) (body : Bytes) :
    (single mediaType encoding body).types = [mediaType] := rfl

variable [Charset.Library]

theorem isLeafType_of_component {raw : Bytes} {key : Text} {part : Part}
    (h : component? raw = some (.leaf key part)) : IsLeafType key := by
  unfold component? at h
  split at h
  · cases h
  · next fields body _ =>
    have hd := Descriptor.isReadable_ofFields fields
    dsimp only at h
    split at h
    · cases h
      exact isLeafType_plainText
    · next hempty =>
      split at h
      · split at h <;> cases h
      · next hs =>
        cases h
        exact hd.isLeafType (by simpa using hempty) (by simpa using hs)

theorem isLeafType_of_mem_leaves (depth : ℕ) (boundary : Text) (body : Bytes) :
    ∀ entry ∈ leaves depth boundary body, IsLeafType entry.1 := by
  induction depth generalizing boundary body with
  | zero => exact fun _ h => absurd h List.not_mem_nil
  | succ depth ih =>
    intro entry hentry
    obtain ⟨raw, -, hraw⟩ := List.mem_flatMap.mp hentry
    unfold leavesOf at hraw
    split at hraw
    · cases hraw
    · next h =>
      rw [List.mem_singleton.mp hraw]
      exact isLeafType_of_component h
    · exact ih _ _ entry hraw

theorem isLeafType_of_mem_types_ofMultipart {depth : ℕ} {boundary : Text} {body : Bytes} :
    ∀ key ∈ (ofMultipart depth boundary body).types, IsLeafType key := by
  intro key hkey
  rw [ofMultipart, mem_types_ofParts] at hkey
  obtain ⟨entry, hentry, rfl⟩ := List.mem_map.mp hkey
  exact isLeafType_of_mem_leaves _ _ _ entry hentry

theorem types_ofBody_of_uncut (depth : ℕ) {d : Descriptor} (body : Bytes)
    (h : d.version.isZero = true ∨ d.isMultipart = false ∨ d.boundary = []) :
    (ofBody depth d body).types = [d.onlyType] := by
  unfold ofBody Descriptor.onlyType
  by_cases hv : d.version.isZero = true
  · simp [hv, types_single]
  by_cases hm : d.isMultipart = true
  · have hb : d.boundary = [] := by simpa [hv, hm] using h
    simp [hv, hm, hb, types_single]
  · by_cases ht : d.mediaType = [] <;> simp [hv, hm, ht, types_single]

theorem isLeafType_of_mem_types_ofBody {depth : ℕ} {d : Descriptor} (hd : d.IsReadable)
    {body : Bytes} : ∀ key ∈ (ofBody depth d body).types, IsLeafType key := by
  by_cases h : d.version.isZero = true ∨ d.isMultipart = false ∨ d.boundary = []
  · rw [types_ofBody_of_uncut depth body h]
    simpa using hd.isLeafType_onlyType
  · simp only [not_or, Bool.not_eq_true, Bool.not_eq_false] at h
    obtain ⟨hv, hm, hb⟩ := h
    rw [ofBody_multipart hv hm hb]
    exact isLeafType_of_mem_types_ofMultipart

end Content

namespace Message

theorem types_ofBytes [Charset.Library] {depth : ℕ} {raw : Bytes} {message : Message}
    (h : ofBytes depth raw = .ok message) :
    ∃ content, message.content = some content ∧ (∀ key ∈ content.types, IsLeafType key) ∧
      let d := message.header.descriptor
      (d.version.isZero = true ∨ d.isMultipart = false ∨ d.boundary = [] →
        content.types = [d.onlyType]) := by
  by_cases hne : (Entity.split raw).1 = []
  · have he : Header.ofBytes (Entity.split raw).1 = .error .emptyHeader := by
      rw [hne]
      rfl
    rw [ofBytes_error depth rfl he] at h
    cases h
  · rw [ofBytes_of_split depth rfl (Header.ofBytes_of_ne_nil hne)] at h
    cases h
    refine ⟨_, rfl, ?_, fun hd => Content.types_ofBody_of_uncut depth _ hd⟩
    exact Content.isLeafType_of_mem_types_ofBody (Descriptor.isReadable_ofFields _)

def nestedParts : Bytes :=
  Utf8.encode ("MIME-Version: 1\nContent-Type: multipart/x; boundary=b\n\n" ++
    "--b\nContent-Type: none\n\ny\n--b\nContent-Type: multipart/y; boundary=c\n\n" ++
    "--c\nContent-Type: IMAGE/PNG\n\nz\n--c--\n--b--\n").toList

theorem types_ofBytes_nested :
    ∃ message content, ofBytes 10 nestedParts = .ok message ∧ message.content = some content ∧
      content.types = ["image/png".toList, plainText] ∧
      ∀ key ∈ content.types, IsLeafType key := by
  have hread : (ofBytes 10 nestedParts).map (·.content.map (·.types)) =
      .ok (some ["image/png".toList, plainText]) := by
    decide +kernel
  cases hm : ofBytes 10 nestedParts with
  | error e =>
    rw [hm] at hread
    cases hread
  | ok message =>
    obtain ⟨content, hc, hkeys, -⟩ := types_ofBytes hm
    rw [hm] at hread
    have htypes : message.content.map (·.types) = _ := Except.ok.inj hread
    rw [hc] at htypes
    exact ⟨message, content, rfl, hc, Option.some.inj htypes, hkeys⟩

end Message

end MimeMail
