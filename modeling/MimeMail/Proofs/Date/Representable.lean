import MimeMail.Proofs.Date.HeaderText

namespace MimeMail

theorem forall_mem_bind {α β : Type} {o : Option α} {f : α → Option β} {p : β → Prop}
    (h : ∀ a ∈ o, ∀ b ∈ f a, p b) : ∀ b ∈ o.bind f, p b := by
  intro b hb
  obtain ⟨a, ha, hb⟩ := Option.bind_eq_some_iff.mp hb
  exact h a ha b hb

theorem forall_mem_orElse {α : Type} {o q : Option α} {p : α → Prop} (ho : ∀ a ∈ o, p a)
    (hq : ∀ a ∈ q, p a) : ∀ a ∈ (o <|> q), p a := by
  cases o with
  | none => exact hq
  | some a => exact ho

def Instant.IsWhole (x : Instant) : Prop := isYear x.date.year = true ∧ x.nanos ≤ 1000000000

theorem Instant.IsWhole.isRepresentable {x : Instant} (h : x.IsWhole) : x.IsRepresentable :=
  ⟨by have := h.2; omega, h.1⟩

theorem Instant.isWhole_ofCivil (date : Date) (clock : Clock) (offset : ℤ) :
    ∀ x ∈ ofCivil? date clock offset, x.IsWhole := by
  intro x hx
  obtain ⟨-, hx⟩ := Option.ite_none_right_eq_some.mp hx
  obtain ⟨hy, hx⟩ := Option.ite_none_right_eq_some.mp hx
  obtain rfl := Option.some.inj hx
  refine ⟨hy, ?_⟩
  dsimp only
  split <;> omega

theorem Layout.isWhole_read (items : List Item) (t : Text) : ∀ x ∈ read? items t, x.IsWhole :=
  forall_mem_bind fun _ _ => Instant.isWhole_ofCivil _ _ _

theorem InternetDate.isWhole_read (t : Text) : ∀ x ∈ read? t, x.IsWhole := by
  unfold read?
  apply forall_mem_bind
  rintro ⟨weekday, t⟩ -
  apply forall_mem_bind
  rintro ⟨day, t⟩ -
  apply forall_mem_bind
  rintro t -
  apply forall_mem_bind
  rintro ⟨month, t⟩ -
  apply forall_mem_bind
  rintro t -
  apply forall_mem_bind
  rintro ⟨year, rest⟩ -
  apply forall_mem_bind
  rintro t -
  apply forall_mem_bind
  rintro ⟨hour, t⟩ -
  apply forall_mem_bind
  rintro t -
  apply forall_mem_bind
  rintro ⟨minute, t⟩ -
  apply forall_mem_bind
  rintro ⟨second, t⟩ -
  apply forall_mem_bind
  rintro t -
  apply forall_mem_bind
  rintro ⟨offset, t⟩ -
  intro x hx
  obtain ⟨-, hx⟩ := Option.ite_none_right_eq_some.mp hx
  exact Instant.isWhole_ofCivil _ _ _ x hx

theorem LooseDate.isWhole_read (t : Text) : ∀ x ∈ read? t, x.IsWhole := by
  unfold read?
  dsimp only
  split
  · split
    · simp
    · exact forall_mem_bind fun _ _ => Instant.isWhole_ofCivil _ _ _
  · simp

theorem Timestamp.lt_of_readFraction {t rest : Text} {n : ℕ}
    (h : readFraction? t = some (n, rest)) : n < 1000000000 := by
  unfold readFraction? at h
  split at h
  · next r =>
    obtain ⟨⟨m, after⟩, hr, hn⟩ := Option.map_eq_some_iff.mp h
    cases hn
    obtain ⟨hlt, hle⟩ := Digits.lt_of_read hr
    have hpow := Nat.pow_add 10 (r.length - after.length) (9 - (r.length - after.length))
    rw [Nat.add_sub_cancel' hle] at hpow
    have hmul := Nat.mul_lt_mul_of_pos_right hlt
      (Nat.pow_pos (n := 9 - (r.length - after.length)) (show 0 < 10 by decide))
    rwa [← hpow] at hmul
  · cases h
    decide

theorem Timestamp.isRepresentable_read (t : Text) : ∀ x ∈ read? t, x.IsRepresentable := by
  unfold read?
  apply forall_mem_bind
  rintro ⟨year, t⟩ -
  apply forall_mem_bind
  rintro t -
  apply forall_mem_bind
  rintro ⟨month, t⟩ -
  apply forall_mem_bind
  rintro t -
  apply forall_mem_bind
  rintro ⟨day, t⟩ -
  apply forall_mem_bind
  rintro c -
  dsimp only
  split
  · exact fun _ hx => nomatch hx
  apply forall_mem_bind
  rintro ⟨hour, t⟩ -
  apply forall_mem_bind
  rintro t -
  apply forall_mem_bind
  rintro ⟨minute, t⟩ -
  apply forall_mem_bind
  rintro t -
  apply forall_mem_bind
  rintro ⟨second, t⟩ -
  apply forall_mem_bind
  rintro ⟨nanos, t⟩ hf
  apply forall_mem_bind
  rintro ⟨offset, t⟩ -
  dsimp only
  split
  · exact fun _ hx => nomatch hx
  apply forall_mem_bind
  intro x hx y hy
  have hlt := lt_of_readFraction hf
  obtain ⟨hyear, hnanos⟩ := Instant.isWhole_ofCivil _ _ _ x hx
  obtain rfl := Option.some.inj hy
  refine ⟨?_, hyear⟩
  dsimp only
  omega

theorem Instant.isRepresentable_read (t : Text) : ∀ x ∈ read? t, x.IsRepresentable := by
  have hlayouts (layouts : List (List Layout.Item)) (t : Text) :
      ∀ x ∈ layouts.findSome? (Layout.read? · t), x.IsRepresentable := by
    intro x hx
    obtain ⟨items, -, hi⟩ := List.exists_of_findSome?_eq_some hx
    exact (Layout.isWhole_read items t x hi).isRepresentable
  rw [read?]
  split
  · simp
  apply forall_mem_orElse (hlayouts _ _)
  apply forall_mem_orElse (hlayouts _ _)
  apply forall_mem_orElse (hlayouts _ _)
  apply forall_mem_orElse (fun x hx => (InternetDate.isWhole_read _ x hx).isRepresentable)
  apply forall_mem_orElse (Timestamp.isRepresentable_read _)
  apply forall_mem_orElse (hlayouts _ _)
  exact fun x hx => (LooseDate.isWhole_read _ x hx).isRepresentable

end MimeMail
