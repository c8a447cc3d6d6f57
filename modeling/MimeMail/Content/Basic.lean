import MimeMail.Header.Basic

namespace MimeMail

structure Part where
  charset : Text := defaultCharset
  encoding : Text := defaultEncoding
  body : Text := []
  deriving DecidableEq

structure Content where
  parts : List (Text × Part) := []
  sorted : parts.Pairwise (·.1 < ·.1) := by exact List.Pairwise.nil
  deriving DecidableEq

namespace Content

def insertSorted (mediaType : Text) (part : Part) : List (Text × Part) → List (Text × Part)
  | [] => [(mediaType, part)]
  | entry :: r =>
    if mediaType < entry.1 then (mediaType, part) :: entry :: r
    else if mediaType = entry.1 then (mediaType, part) :: r
    else entry :: insertSorted mediaType part r

theorem mem_insertSorted {mediaType : Text} {part : Part} {parts : List (Text × Part)}
    {entry : Text × Part} (h : entry ∈ insertSorted mediaType part parts) :
    entry = (mediaType, part) ∨ entry ∈ parts := by
  induction parts with
  | nil => simpa [insertSorted] using h
  | cons e r ih =>
    simp only [insertSorted] at h
    split at h
    · simpa using h
    · split at h
      · simp only [List.mem_cons] at h ⊢
        exact h.imp_right .inr
      · simp only [List.mem_cons] at h ⊢
        rcases h with h | h
        · exact .inr (.inl h)
        · exact (ih h).imp_right .inr

theorem sorted_insertSorted {mediaType : Text} {part : Part} {parts : List (Text × Part)}
    (h : parts.Pairwise (·.1 < ·.1)) :
    (insertSorted mediaType part parts).Pairwise (·.1 < ·.1) := by
  induction parts with
  | nil => simp [insertSorted]
  | cons e r ih =>
    have hr := List.pairwise_cons.1 h
    simp only [insertSorted]
    split
    · next hlt =>
      refine List.pairwise_cons.2 ⟨fun a ha => ?_, h⟩
      rcases List.mem_cons.1 ha with rfl | ha
      · exact hlt
      · exact List.lt_trans hlt (hr.1 a ha)
    · next hlt =>
      split
      · next heq => exact List.pairwise_cons.2 ⟨fun a ha => heq ▸ hr.1 a ha, hr.2⟩
      · next hne =>
        refine List.pairwise_cons.2 ⟨fun a ha => ?_, ih hr.2⟩
        rcases mem_insertSorted ha with rfl | ha
        · exact Decidable.byContradiction fun hgt =>
            hne (Std.Trichotomous.trichotomous (r := (· < · : Text → Text → Prop)) _ _ hlt hgt)
        · exact hr.1 a ha

def insert (content : Content) (mediaType : Text) (part : Part) : Content :=
  ⟨insertSorted mediaType part content.parts, sorted_insertSorted content.sorted⟩

def ofParts (parts : List (Text × Part)) : Content :=
  parts.foldl (fun content (mediaType, part) => content.insert mediaType part) {}

def get? (content : Content) (mediaType : Text) : Option Part :=
  (content.parts.find? (·.1 = mediaType)).map (·.2)

def map (change : Text → Part → Part) (content : Content) : Content where
  parts := content.parts.map fun (mediaType, part) => (mediaType, change mediaType part)
  sorted := content.sorted.map _ fun _ _ h => h

end Content

end MimeMail
