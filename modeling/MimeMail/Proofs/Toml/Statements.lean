import Mathlib
import MimeMail.Proofs.Toml.Quoted
import MimeMail.Proofs.Toml.Scalars
import MimeMail.Toml.Reader

namespace MimeMail.Toml

theorem Quoted.exists_cons_write (t : Text) :
    ∃ q w, Quoted.write t = q :: w ∧ (q = '"' ∨ q = '\'') := by
  rw [Quoted.write]
  cases Quoted.form t
  · exact ⟨'"', _, rfl, .inl rfl⟩
  · exact ⟨'\'', _, rfl, .inr rfl⟩
  · exact ⟨'"', _, rfl, .inl rfl⟩
  · exact ⟨'\'', _, rfl, .inr rfl⟩

structure IsWritten (text : Text) (value : Value) : Prop where
  isBlank_head : ∀ c ∈ text.head?, isBlank c = false
  value?_append : ∀ r, value? topDepth (text ++ '\n' :: r) = some (value, '\n' :: r)

theorem isWritten_text (t : Text) : IsWritten (Quoted.write t) (.text t) := by
  obtain ⟨q, w, h, hq⟩ := Quoted.exists_cons_write t
  constructor
  · rw [h]
    rintro c ⟨⟩
    rcases hq with rfl | rfl <;> rfl
  · intro r
    have hread : Quoted.read? (Quoted.write t ++ '\n' :: r) = some (t, '\n' :: r) :=
      Quoted.read?_write t (by simp) (by simp)
    have hvalue : value? topDepth (Quoted.write t ++ '\n' :: r) =
        (Quoted.read? (Quoted.write t ++ '\n' :: r)).map fun p => (.text p.1, p.2) := by
      rw [h]
      rcases hq with rfl | rfl <;> rfl
    rw [hvalue, hread]
    rfl

theorem value?_scalar (depth : ℕ) {c : Char} (h : c ∉ ['"', '\'', '[', '\x7b']) (r : Text) :
    value? depth (c :: r) = Scalar.read? (c :: r) := by
  rw [value?.eq_def]
  split <;> simp_all

theorem isWritten_count {n : ℕ} (h : n < 2 ^ 63) : IsWritten (Digits.ofNat n) (.integer n) := by
  obtain ⟨c, ds, hds, hc, -⟩ := Digits.exists_cons_ofNat n
  have hne : c ≠ '"' ∧ c ≠ '\'' ∧ c ≠ '[' ∧ c ≠ '\x7b' ∧ c ≠ ' ' ∧ c ≠ '\t' := by
    refine ⟨?_, ?_, ?_, ?_, ?_, ?_⟩ <;>
    · rintro rfl
      exact absurd hc (by decide)
  constructor
  · rw [hds]
    rintro d ⟨⟩
    simp [isBlank, hne]
  · intro r
    rw [← Scalar.read?_ofNat h r, hds, List.cons_append]
    exact value?_scalar topDepth (by simp [hne]) _

theorem isWritten_boolean (b : Bool) :
    IsWritten (if b then "true" else "false").toList (.boolean b) := by
  cases b <;>
  · refine ⟨?_, fun _ => rfl⟩
    rintro c ⟨⟩
    rfl

theorem skipBlanks_eq_self {t : Text} (h : ∀ c ∈ t.head?, isBlank c = false) : skipBlanks t = t :=
  Text.dropWhile_eq_self h

def IsBareName (name : Text) : Prop := name ≠ [] ∧ name.all isBare = true

theorem ne_of_isBare {c d : Char} (hc : isBare c = true) (hd : isBare d = false) : c ≠ d := by
  rintro rfl
  rw [hc] at hd
  cases hd

theorem IsBareName.exists_cons {name : Text} (hn : IsBareName name) :
    ∃ c w, name = c :: w ∧ isBare c = true := by
  obtain ⟨c, w, rfl⟩ := List.exists_cons_of_ne_nil hn.1
  exact ⟨c, w, rfl, List.all_eq_true.1 hn.2 c List.mem_cons_self⟩

theorem skipTrivia_append {name : Text} (hn : IsBareName name) (r : Text) :
    skipTrivia (name ++ r) = name ++ r := by
  obtain ⟨c, w, rfl, hc⟩ := hn.exists_cons
  have hne : c ≠ '\n' ∧ c ≠ '\r' ∧ c ≠ ' ' ∧ c ≠ '\t' ∧ c ≠ '#' :=
    ⟨ne_of_isBare hc rfl, ne_of_isBare hc rfl, ne_of_isBare hc rfl, ne_of_isBare hc rfl,
      ne_of_isBare hc rfl⟩
  rw [List.cons_append, skipTrivia, skipTrivia.go]
  simp [hne, isBlank]

theorem keyPart?_append {name : Text} (hn : IsBareName name) {c : Char} (hc : isBare c = false)
    (r : Text) : keyPart? (name ++ c :: r) = some (name, c :: r) := by
  have ht : (name ++ c :: r).takeWhile isBare = name := by
    rw [List.takeWhile_append_of_pos (List.all_eq_true.1 hn.2),
      List.takeWhile_cons_of_neg (by simp [hc]), List.append_nil]
  have hempty : name.isEmpty = false := by simpa using hn.1
  obtain ⟨d, w, rfl, hd⟩ := hn.exists_cons
  rw [keyPart?.eq_def]
  split
  · next h => exact absurd (List.cons.inj h).1 (ne_of_isBare hd (by rfl))
  · next h => exact absurd (List.cons.inj h).1 (ne_of_isBare hd (by rfl))
  · rw [ht]
    dsimp only
    rw [hempty, List.drop_left]
    rfl

theorem keyParts?_append {name : Text} (hn : IsBareName name) {c : Char} (hc : isBare c = false)
    (r : Text) (hdot : (skipBlanks (c :: r)).head? ≠ some '.') :
    keyParts? (name ++ c :: r) = some ([name], skipBlanks (c :: r)) := by
  have hskip : skipBlanks (name ++ c :: r) = name ++ c :: r := by
    obtain ⟨d, w, rfl, hd⟩ := hn.exists_cons
    apply skipBlanks_eq_self
    rintro e ⟨⟩
    simp [isBlank, ne_of_isBare hd (d := ' ') rfl, ne_of_isBare hd (d := '\t') rfl]
  rw [keyParts?, hskip, keyPart?_append hn hc]
  dsimp only
  split
  · next h =>
    rw [h] at hdot
    exact absurd rfl hdot
  · rfl

theorem key?_append {name : Text} (hn : IsBareName name) {c : Char} (hc : isBare c = false)
    (r : Text) (hdot : (skipBlanks (c :: r)).head? ≠ some '.') :
    key? (name ++ c :: r) = some ([name], skipBlanks (c :: r)) := by
  rw [key?, keyParts?_append hn hc r hdot]
  rfl

theorem statement?_header {name : Text} (hn : IsBareName name) (r : Text) :
    statement? ('[' :: name ++ ']' :: r) = some (.table [name], r) := by
  have hkey := key?_append hn (c := ']') rfl r (by simp [skipBlanks, isBlank])
  have hskip : skipBlanks (']' :: r) = ']' :: r := rfl
  have hheader : header? "]".toList (name ++ ']' :: r) = some ([name], r) := by
    rw [header?, hkey, hskip]
    rfl
  obtain ⟨d, w, rfl, hd⟩ := hn.exists_cons
  have hne : d ≠ '[' := ne_of_isBare hd rfl
  rw [List.cons_append, List.cons_append, statement?]
  · rw [← List.cons_append, hheader]
    rfl
  · exact fun s h => hne (List.cons.inj h).1

theorem statement?_pair {name text : Text} {value : Value} (hn : IsBareName name)
    (h : IsWritten text value) (r : Text) :
    statement? (name ++ " = ".toList ++ text ++ '\n' :: r) = some (.pair [name] value, '\n' :: r) := by
  have hkey := key?_append hn (c := ' ') rfl ('=' :: ' ' :: (text ++ '\n' :: r))
    (by simp [skipBlanks, isBlank])
  have hskip : skipBlanks (' ' :: (text ++ '\n' :: r)) = text ++ '\n' :: r := by
    refine skipBlanks_eq_self (t := text ++ '\n' :: r) ?_
    cases text with
    | nil =>
      rintro c ⟨⟩
      rfl
    | cons c w => exact h.isBlank_head
  have hpair : pair? (value? topDepth) (name ++ ' ' :: '=' :: ' ' :: (text ++ '\n' :: r)) =
      some (([name], value), '\n' :: r) := by
    rw [pair?, hkey]
    change (value? topDepth (skipBlanks (' ' :: (text ++ '\n' :: r)))).bind _ = _
    rw [hskip, h.value?_append]
    rfl
  have ht : name ++ " = ".toList ++ text ++ '\n' :: r =
      name ++ ' ' :: '=' :: ' ' :: (text ++ '\n' :: r) := by
    simp
  rw [ht]
  obtain ⟨d, w, rfl, hd⟩ := hn.exists_cons
  have hne : d ≠ '[' := ne_of_isBare hd rfl
  rw [List.cons_append] at hpair ⊢
  rw [statement?]
  · rw [hpair]
    rfl
  · exact fun s h => hne (List.cons.inj h).1
  · exact fun s h => hne (List.cons.inj h).1

theorem statements?_cons {t start r : Text} {s : Statement} (ht : skipTrivia t = start)
    (hn : start ≠ []) (hs : statement? start = some (s, '\n' :: r)) (hl : r.length < t.length) :
    statements? t = (statements? r).map (s :: ·) := by
  rw [statements?, ht]
  split
  · exact absurd rfl hn
  · rw [hs]
    change (if _ then _ else _) = _
    rw [if_pos hl]

end MimeMail.Toml
