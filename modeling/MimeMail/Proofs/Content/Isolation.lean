import MimeMail.Proofs.Content.Lookup
import MimeMail.Proofs.Content.Trees

namespace MimeMail.Multipart

def assemble (boundary : Text) (parts : List Bytes) : Bytes := write boundary [] parts []

theorem avoids_nil (boundary : Text) : Avoids boundary [] :=
  fun _ hl => absurd hl List.not_mem_nil

theorem split_assemble {boundary : Text} (h : IsBoundary boundary) {parts : List Bytes}
    (hp : ∀ part ∈ parts, Avoids boundary part) :
    split boundary (assemble boundary parts) = parts :=
  split_write h (by simp) (avoids_nil boundary) hp []

end MimeMail.Multipart

namespace MimeMail.Content

open Multipart (IsBoundary Avoids assemble)

variable {boundary : Text}

def mixed : Bytes :=
  Utf8.encode "Content-Type: multipart/mixed; boundary=c\n\n--c\n\nx\n--c--".toList

section

variable [Charset.Library]

theorem ofMultipart_assemble (h : IsBoundary boundary) {parts : List Bytes}
    (hp : ∀ part ∈ parts, Avoids boundary part) (depth : ℕ) :
    ofMultipart depth boundary (assemble boundary parts) =
      ofParts (parts.flatMap (leavesOf (leaves (depth - 1)))) := by
  rw [ofMultipart_eq, Multipart.split_assemble h hp]

theorem ofMultipart_append (h : IsBoundary boundary) {ps qs : List Bytes}
    (hp : ∀ part ∈ ps, Avoids boundary part) (hq : ∀ part ∈ qs, Avoids boundary part) (depth : ℕ) :
    ofMultipart depth boundary (assemble boundary (ps ++ qs)) =
      (ofMultipart depth boundary (assemble boundary ps)).overwrite
        (ofMultipart depth boundary (assemble boundary qs)) := by
  have happ : ∀ part ∈ ps ++ qs, Avoids boundary part := List.forall_mem_append.mpr ⟨hp, hq⟩
  rw [ofMultipart_assemble h happ, ofMultipart_assemble h hp, ofMultipart_assemble h hq,
    List.flatMap_append, ofParts_append]

theorem get?_ofMultipart_append (h : IsBoundary boundary) {ps qs : List Bytes}
    (hp : ∀ part ∈ ps, Avoids boundary part) (hq : ∀ part ∈ qs, Avoids boundary part) (depth : ℕ)
    (key : Text) :
    (ofMultipart depth boundary (assemble boundary (ps ++ qs))).get? key =
      ((ofMultipart depth boundary (assemble boundary qs)).get? key <|>
        (ofMultipart depth boundary (assemble boundary ps)).get? key) := by
  rw [ofMultipart_append h hp hq, get?_overwrite]

theorem get?_ofMultipart_cons (h : IsBoundary boundary) {part : Bytes} {ps qs : List Bytes}
    (hpart : Avoids boundary part) (hp : ∀ part ∈ ps, Avoids boundary part)
    (hq : ∀ part ∈ qs, Avoids boundary part) (depth : ℕ) {key : Text}
    (hn : (ofMultipart depth boundary (assemble boundary [part])).get? key = none) :
    (ofMultipart depth boundary (assemble boundary (ps ++ part :: qs))).get? key =
      (ofMultipart depth boundary (assemble boundary (ps ++ qs))).get? key := by
  have hone : ∀ p ∈ [part], Avoids boundary p := by simpa using hpart
  have hcons : ∀ p ∈ [part] ++ qs, Avoids boundary p := List.forall_mem_append.mpr ⟨hone, hq⟩
  have hsplit : ps ++ part :: qs = ps ++ ([part] ++ qs) := rfl
  rw [hsplit, get?_ofMultipart_append h hp hcons, get?_ofMultipart_append h hone hq, hn,
    get?_ofMultipart_append h hp hq]
  cases (ofMultipart depth boundary (assemble boundary qs)).get? key <;> rfl

theorem parts_isolated (h : IsBoundary boundary) (depth : ℕ) {ps qs : List Bytes}
    (hp : ∀ part ∈ ps, Avoids boundary part) (hq : ∀ part ∈ qs, Avoids boundary part) :
    ofMultipart depth boundary (assemble boundary (ps ++ qs)) =
        (ofMultipart depth boundary (assemble boundary ps)).overwrite
          (ofMultipart depth boundary (assemble boundary qs)) ∧
      ∀ part, Avoids boundary part → ∀ key,
        (ofMultipart depth boundary (assemble boundary [part])).get? key = none →
        (ofMultipart depth boundary (assemble boundary (ps ++ part :: qs))).get? key =
          (ofMultipart depth boundary (assemble boundary (ps ++ qs))).get? key :=
  ⟨ofMultipart_append h hp hq depth,
    fun _ hpart _ hn => get?_ofMultipart_cons h hpart hp hq depth hn⟩

end

theorem parts_isolated_mixed :
    ofMultipart 10 ['b'] (assemble ['b'] ([[0x0A, 0xE9], mixed] ++ [[0x0A, 0x68, 0x0D]])) =
        (ofMultipart 10 ['b'] (assemble ['b'] [[0x0A, 0xE9], mixed])).overwrite
          (ofMultipart 10 ['b'] (assemble ['b'] [[0x0A, 0x68, 0x0D]])) ∧
      (ofMultipart 10 ['b'] (assemble ['b'] [[0x0A, 0xE9], mixed, [0x78], [0x0A, 0x68, 0x0D]])).get?
          plainText =
        (ofMultipart 10 ['b'] (assemble ['b'] [[0x0A, 0xE9], mixed, [0x0A, 0x68, 0x0D]])).get?
          plainText := by
  have hb : IsBoundary ['b'] := ⟨by decide, by decide +kernel⟩
  have hp : ∀ part ∈ [[0x0A, 0xE9], mixed], Avoids ['b'] part := by decide +kernel
  have hq : ∀ part ∈ [[0x0A, 0x68, 0x0D]], Avoids ['b'] part := by decide +kernel
  have h := parts_isolated hb 10 hp hq
  exact ⟨h.1, h.2 [0x78] (by decide +kernel) plainText (by decide +kernel)⟩

end MimeMail.Content
