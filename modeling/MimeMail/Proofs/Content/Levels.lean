import MimeMail.Proofs.Content.Delimiters
import MimeMail.Proofs.Content.Isolation
import MimeMail.Proofs.Content.LineBreaks

namespace MimeMail.Multipart

variable {boundary : Text}

theorem length_pos_of_delimiter {line : Bytes} {kind : Delimiter}
    (h : delimiter? boundary line = some kind) : 0 < line.length := by
  rw [List.length_pos_iff]
  rintro rfl
  have hnil : ([] : Bytes).rdropWhile isBlank = [] := rfl
  simp [delimiter?_eq, hnil, mark, hyphens] at h

theorem length_of_mem_go {opened : Option (List Bytes)} {lines : List Bytes} {part : Bytes}
    (h : part ∈ split.go boundary opened lines) :
    part.length < (opened.elim 0 (·.flatten.length)) + lines.flatten.length := by
  induction lines generalizing opened with
  | nil => cases opened <;> cases h
  | cons line lines ih =>
    rw [List.flatten_cons, List.length_append]
    rw [split.go] at h
    split at h
    · have hi := ih h
      cases opened with
      | none =>
        simp only [Option.map_none, Option.elim_none] at hi ⊢
        omega
      | some ls =>
        simp only [Option.map_some, Option.elim_some, List.flatten_cons, List.length_append] at hi ⊢
        omega
    · next kind hd =>
      have hpos := length_pos_of_delimiter hd
      rcases List.mem_append.mp h with h | h
      · -- The line ends the part that is open.
        cases opened with
        | none => cases h
        | some ls =>
          obtain rfl : part = dropBreak ls.reverse.flatten := by simpa using h
          have hle := (isWithoutBreak_dropBreak ls.reverse.flatten).length_le
          rw [List.length_flatten, List.map_reverse, List.sum_reverse, ← List.length_flatten] at hle
          simp only [Option.elim_some]
          omega
      · split at h
        · cases h
        · have hi := ih h
          simp only [Option.elim_some, List.flatten_nil, List.length_nil] at hi
          omega

theorem length_of_mem_split {body part : Bytes} (h : part ∈ split boundary body) :
    part.length < body.length := by
  have hlt := length_of_mem_go h
  rwa [Lines.flatten_cutAfter, Option.elim_none, Nat.zero_add] at hlt

end MimeMail.Multipart

namespace MimeMail.Entity

theorem length_of_ofPart {raw body : Bytes} {fields : FieldMap}
    (h : ofPart? raw = some (fields, body)) : body.length < raw.length := by
  unfold ofPart? at h
  split at h
  · cases h
  · cases h
    simp
  · cases h
    simp
  · next hne _ _ =>
    have hpos : 0 < raw.length := List.length_pos_iff.mpr hne
    dsimp only at h
    split at h
    · next inner hs =>
      cases h
      rcases eq_of_split (rfl : split raw = (_, _)) with ⟨hn, -⟩ | ⟨b, hb, hr⟩
      · rw [hn] at hs
        cases hs
      · obtain rfl := Option.some.inj (hb.symm.trans hs)
        rcases hr with hr | hr <;>
        · have hlen := congrArg List.length hr
          simp [Multipart.crlf] at hlen
          omega
    · split at h
      · cases h
        exact hpos
      · cases h

end MimeMail.Entity

namespace MimeMail.Content

open Multipart (assemble)

section

variable [Charset.Library]

theorem length_of_nested {raw body : Bytes} {boundary : Text}
    (h : component? raw = some (.nested boundary body)) : body.length < raw.length := by
  unfold component? at h
  split at h
  · cases h
  · next hpart =>
    dsimp only at h
    split at h
    · cases h
    · split at h
      · split at h
        · cases h
        · cases h
          exact Entity.length_of_ofPart hpart
      · cases h

/-- The parts of a multipart body with their media types, in order, however deep they are. -/
def allLeaves (boundary : Text) (body : Bytes) : List (Text × Part) :=
  (Multipart.split boundary body).attach.flatMap fun ⟨raw, _hraw⟩ =>
    match _hpart : component? raw with
    | none => []
    | some (.leaf mediaType part) => [(mediaType, part)]
    | some (.nested boundary inner) => allLeaves boundary inner
termination_by body.length
decreasing_by exact (length_of_nested _hpart).trans (Multipart.length_of_mem_split _hraw)

theorem allLeaves_eq (boundary : Text) (body : Bytes) :
    allLeaves boundary body = (Multipart.split boundary body).flatMap (leavesOf allLeaves) := by
  rw [allLeaves, List.flatMap_subtype (g := leavesOf allLeaves), List.unattach_attach]
  intro raw _
  unfold leavesOf
  dsimp only
  split <;> next hpart => rw [hpart]

theorem leavesOf_rel {r : List (Text × Part) → List (Text × Part) → Prop}
    (hr : ∀ parts, r parts parts) {f g : Text → Bytes → List (Text × Part)} {raw : Bytes}
    (h : ∀ boundary body, body.length < raw.length → r (f boundary body) (g boundary body)) :
    r (leavesOf f raw) (leavesOf g raw) := by
  unfold leavesOf
  split
  · exact hr _
  · exact hr _
  · next hpart => exact h _ _ (length_of_nested hpart)

theorem leaves_sublist_succ (depth : ℕ) (boundary : Text) (body : Bytes) :
    (leaves depth boundary body).Sublist (leaves (depth + 1) boundary body) := by
  induction depth generalizing boundary body with
  | zero => exact List.nil_sublist _
  | succ depth ih =>
    rw [leaves, leaves]
    apply List.Sublist.flatMap_right
    exact fun raw _ => leavesOf_rel List.Sublist.refl fun boundary body _ => ih boundary body

theorem leaves_sublist {d e : ℕ} (h : d ≤ e) (boundary : Text) (body : Bytes) :
    (leaves d boundary body).Sublist (leaves e boundary body) := by
  induction h with
  | refl => exact List.Sublist.refl _
  | step _ ih => exact ih.trans (leaves_sublist_succ _ boundary body)

theorem leaves_eq_allLeaves {depth : ℕ} {boundary : Text} {body : Bytes}
    (h : body.length ≤ depth) : leaves depth boundary body = allLeaves boundary body := by
  induction depth generalizing boundary body with
  | zero =>
    have hsplit : Multipart.split boundary body = [] := by
      rw [List.eq_nil_iff_forall_not_mem]
      intro raw hraw
      have hlt := Multipart.length_of_mem_split hraw
      omega
    rw [leaves, allLeaves_eq, hsplit, List.flatMap_nil]
  | succ depth ih =>
    -- A part lies between two delimiter lines, so it is shorter than the body.
    rw [leaves, allLeaves_eq]
    apply List.flatMap_congr
    intro raw hraw
    have hlt := Multipart.length_of_mem_split hraw
    exact leavesOf_rel (fun _ => rfl) fun boundary body hbody => ih (by omega)

theorem ofMultipart_eq_allLeaves {depth : ℕ} {boundary : Text} {body : Bytes}
    (h : body.length ≤ depth) :
    ofMultipart depth boundary body = ofParts (allLeaves boundary body) := by
  rw [ofMultipart, leaves_eq_allLeaves (h.trans (Nat.le_max_right 1 depth))]

theorem types_ofMultipart_subset {d e : ℕ} (h : d ≤ e) (boundary : Text) (body : Bytes) :
    (ofMultipart d boundary body).types ⊆ (ofMultipart e boundary body).types := by
  intro key hkey
  rw [ofMultipart, mem_types_ofParts] at hkey ⊢
  have hdepth : max 1 d ≤ max 1 e := by omega
  exact (((leaves_sublist hdepth boundary body).map (·.1)).subset) hkey

theorem ofMultipart_levels (boundary : Text) (body : Bytes) :
    (∀ d e, d ≤ e →
        (ofMultipart d boundary body).types ⊆ (ofMultipart e boundary body).types) ∧
      ofMultipart 0 boundary body = ofMultipart 1 boundary body ∧
      (∀ depth, body.length ≤ depth →
        ofMultipart depth boundary body = ofMultipart body.length boundary body) ∧
      ofMultipart body.length boundary body = ofParts (allLeaves boundary body) := by
  refine ⟨fun d e h => types_ofMultipart_subset h boundary body, rfl, fun depth h => ?_, ?_⟩
  · rw [ofMultipart_eq_allLeaves h, ofMultipart_eq_allLeaves (le_refl _)]
  · exact ofMultipart_eq_allLeaves (le_refl _)

end

theorem ofMultipart_levels_mixed :
    (ofMultipart 1 ['b'] (assemble ['b'] [mixed])).types = [] ∧
      (ofMultipart 1 ['b'] (assemble ['b'] [mixed])).types ⊆
        (ofMultipart 2 ['b'] (assemble ['b'] [mixed])).types ∧
      (ofMultipart 2 ['b'] (assemble ['b'] [mixed])).types = [plainText] ∧
      ofMultipart 1000 ['b'] (assemble ['b'] [mixed]) =
        ofMultipart (assemble ['b'] [mixed]).length ['b'] (assemble ['b'] [mixed]) := by
  obtain ⟨hsubset, -, hlength, -⟩ := ofMultipart_levels ['b'] (assemble ['b'] [mixed])
  refine ⟨?_, hsubset 1 2 (by decide), ?_, hlength 1000 ?_⟩ <;> decide +kernel

end MimeMail.Content
