import MimeMail.Message.Session
import MimeMail.Proofs.Content.Separators
import MimeMail.Proofs.Message.LeafTypes

namespace MimeMail

namespace Entity

theorem split_fst_eq_nil_iff {raw : Bytes} :
    (split raw).1 = [] ↔ raw = [] ∨ ∃ sep, IsSeparator sep ∧ sep <+: raw := by
  constructor
  · intro h
    cases hb : (split raw).2 with
    | none =>
      rw [split_eq_self hb] at h
      exact .inl h
    | some body =>
      obtain ⟨head, sep, hsplit, hsep, rfl⟩ := exists_separator hb
      rw [hsplit] at h
      exact .inr ⟨sep, hsep, body, by rw [show head = [] from h, List.nil_append]⟩
  · rintro (rfl | ⟨sep, hsep, hp⟩)
    · rfl
    · obtain ⟨r, hr⟩ := exists_split hsep hp
      rw [hr]

end Entity

namespace Header

theorem ofBytes_eq_error_iff [Charset.Library] {raw : Bytes} {e : MailError} :
    ofBytes raw = .error e ↔ e = .emptyHeader ∧ raw = [] := by
  by_cases hraw : raw = []
  · subst hraw
    have h : ofBytes [] = .error .emptyHeader := rfl
    simp [h, eq_comm]
  · simp [ofBytes_of_ne_nil hraw, hraw]

theorem write_ne_nil (h : Header) : h.write ≠ [] := by
  obtain ⟨c, hc, -⟩ := h.head?_lines
  intro hnil
  rw [← Text.head?_join fun l hl => (h.ends_of_mem_lines l hl).1, ← write_eq, hnil] at hc
  cases hc

end Header

namespace Message

variable {depth : ℕ} {folder : Text} {full : Bool} {raw : Bytes} {record : Record} {e : MailError}

/-- What a record lacks, in the order in which it is asked for. -/
def Record.lack? (full : Bool) (record : Record) : Option MailError :=
  match record.header with
  | none => some (.missingHeader record.uid)
  | some [] => some .emptyHeader
  | some _ => if full = true ∧ record.body = none then some .missingBody else none

namespace Record

theorem lack?_eq_missingHeader_iff {uid : ℕ} :
    record.lack? full = some (.missingHeader uid) ↔ record.header = none ∧ record.uid = uid := by
  rw [lack?]
  split <;> simp [*]

theorem lack?_eq_emptyHeader_iff :
    record.lack? full = some .emptyHeader ↔ record.header = some [] := by
  rw [lack?]
  split <;> simp_all

theorem lack?_eq_missingBody_iff :
    record.lack? full = some .missingBody ↔
      (∃ head, record.header = some head ∧ head ≠ []) ∧ full = true ∧ record.body = none := by
  rw [lack?]
  split <;> simp_all

theorem lack?_eq_none_iff :
    record.lack? full = none ↔
      (∃ head, record.header = some head ∧ head ≠ []) ∧ ¬ (full = true ∧ record.body = none) := by
  rw [lack?]
  split <;> simp_all

end Record

variable [Charset.Library]

theorem ofBytes_eq_error_iff :
    ofBytes depth raw = .error e ↔ e = .emptyHeader ∧ (Entity.split raw).1 = [] := by
  rw [← Header.ofBytes_eq_error_iff]
  cases h : Header.ofBytes (Entity.split raw).1 with
  | error e' => simp [ofBytes_error depth rfl h]
  | ok header => simp [ofBytes_of_split depth rfl h]

theorem ofRecord_of_ne_nil (hraw : raw ≠ []) (hheader : record.header = some raw) :
    ofRecord depth folder full record =
      let h := Header.ofFields (FieldMap.ofText (Charset.decodeRaw raw))
      if full = true ∧ record.body = none then .error .missingBody
      else .ok { uid := record.uid
                 header := { h with size := record.size, folder }
                 flags := Flags.ofSymbols record.flags
                 content :=
                   if full then record.body.map (Content.ofBody depth h.descriptor) else none } := by
  rw [ofRecord, hheader]
  dsimp only [Option.elim_some, bind, Except.bind]
  rw [Header.ofBytes_of_ne_nil hraw]
  cases full with
  | false => rfl
  | true => cases record.body <;> rfl

theorem ofRecord_eq_error_iff :
    ofRecord depth folder full record = .error e ↔ record.lack? full = some e := by
  cases hheader : record.header with
  | none =>
    have hread : ofRecord depth folder full record = .error (.missingHeader record.uid) := by
      rw [ofRecord, hheader]
      rfl
    simp [hread, Record.lack?, hheader]
  | some raw =>
    cases raw with
    | nil =>
      have hread : ofRecord depth folder full record = .error .emptyHeader := by
        rw [ofRecord, hheader]
        rfl
      simp [hread, Record.lack?, hheader]
    | cons b r =>
      rw [ofRecord_of_ne_nil (List.cons_ne_nil b r) hheader, Record.lack?, hheader]
      dsimp only
      split <;> simp

theorem exists_ofRecord_iff :
    (∃ m, ofRecord depth folder full record = .ok m) ↔ record.lack? full = none := by
  cases h : ofRecord depth folder full record with
  | error e => simp [ofRecord_eq_error_iff.mp h]
  | ok m =>
    have hnone : record.lack? full = none := by
      by_contra hne
      obtain ⟨e, he⟩ := Option.ne_none_iff_exists'.mp hne
      rw [ofRecord_eq_error_iff.mpr he] at h
      cases h
    simp [hnone]

theorem errors_structural (depth : ℕ) (folder : Text) (full : Bool) (raw : Bytes)
    (record : Record) :
    let result := ofRecord depth folder full record
    (∀ e, ofBytes depth raw = .error e ↔
        e = .emptyHeader ∧ (raw = [] ∨ ∃ sep, Entity.IsSeparator sep ∧ sep <+: raw)) ∧
      (∀ uid, result = .error (.missingHeader uid) ↔ record.header = none ∧ record.uid = uid) ∧
      (result = .error .emptyHeader ↔ record.header = some []) ∧
      (result = .error .missingBody ↔
        (∃ head, record.header = some head ∧ head ≠ []) ∧ full = true ∧ record.body = none) ∧
      ((∃ m, result = .ok m) ↔
        (∃ head, record.header = some head ∧ head ≠ []) ∧ ¬ (full = true ∧ record.body = none)) := by
  intro result
  have herror (e : MailError) : result = .error e ↔ record.lack? full = some e := ofRecord_eq_error_iff
  have hok : (∃ m, result = .ok m) ↔ record.lack? full = none := exists_ofRecord_iff
  refine ⟨fun e => ?_, fun uid => ?_, ?_, ?_, ?_⟩
  · rw [ofBytes_eq_error_iff, Entity.split_fst_eq_nil_iff]
  · rw [herror, Record.lack?_eq_missingHeader_iff]
  · rw [herror, Record.lack?_eq_emptyHeader_iff]
  · rw [herror, Record.lack?_eq_missingBody_iff]
  · rw [hok, Record.lack?_eq_none_iff]

end Message

namespace Session

variable {s : Session} {x : Step} {e : MailError}

def message? (s : Session) : Step → Option Bytes
  | .read _ raw => some raw
  | .readSent _ => some (Utf8.encode s.sent)
  | _ => none

theorem map_eq_error_iff {α β : Type} {f : α → β} {result : Except MailError α} :
    result.map f = .error e ↔ result = .error e := by
  cases result <;> simp [Except.map]

variable [Charset.Library]

theorem step_eq_error_iff :
    s.step x = .error e ↔
      e = .emptyHeader ∧ ∃ raw, s.message? x = some raw ∧ (Entity.split raw).1 = [] := by
  cases x with
  | read depth raw => simp [step, message?, map_eq_error_iff, Message.ofBytes_eq_error_iff]
  | readSent depth => simp [step, message?, map_eq_error_iff, Message.ofBytes_eq_error_iff]
  | renew =>
    have hne : Utf8.encode s.current.header.write ≠ [] := by
      rw [ne_eq, Utf8.encode_eq_nil_iff]
      exact Header.write_ne_nil _
    simp [step, message?, map_eq_error_iff, Header.ofBytes_eq_error_iff, hne]
  | setUid | setFolder | setFlags | decode | append | store | sort => simp [step, message?]

theorem emptyHeader_of_mem_run {steps : List Step} (h : .error e ∈ s.run steps) :
    e = .emptyHeader := by
  induction steps generalizing s with
  | nil => cases h
  | cons x steps ih =>
    rw [run] at h
    split at h
    · rcases List.mem_cons.mp h with hx | h
      · cases hx
      · exact ih h
    · next e' hstep =>
      rcases List.mem_cons.mp h with hx | h
      · cases hx
        exact (step_eq_error_iff.mp hstep).1
      · exact ih h

end Session

end MimeMail
