import Mathlib
import MimeMail.Proofs.Text.Utf8
import MimeMail.Proofs.Toml.Documents
import MimeMail.Proofs.Toml.Integers
import MimeMail.Proofs.Toml.Statements
import MimeMail.Settings.Basic

/-!
Settings loaded from the file that they were written to. Every field is written but an absent one,
whose default is to be absent, so that no default takes the place of a written value.
-/

namespace MimeMail.Settings

open Toml

structure Field where
  name : String
  text : Text
  value : Value
  isBareName : IsBareName name.toList
  isWritten : IsWritten text value

namespace Field

def write (field : Field) : Text := line field.name field.text

def entry (field : Field) : Text × Value := (field.name.toList, field.value)

def ofText (name : String) (h : IsBareName name.toList) (t : Text) : Field :=
  ⟨name, Quoted.write t, .text t, h, isWritten_text t⟩

theorem statements?_write (field : Field) (r : Text) :
    statements? (field.write ++ r) =
      (statements? r).map (.pair [field.name.toList] field.value :: ·) := by
  have ht : field.write ++ r = field.name.toList ++ " = ".toList ++ field.text ++ '\n' :: r := by
    simp [write, line]
  have hskip : skipTrivia (field.write ++ r) = field.write ++ r := by
    rw [ht, List.append_assoc, List.append_assoc]
    exact skipTrivia_append field.isBareName _
  exact statements?_cons (hskip.trans ht) (by simp) (statement?_pair field.isBareName field.isWritten r)
    (by simp [write, line]; omega)

theorem statements?_flatMap (fields : List Field) (r : Text) :
    statements? (fields.flatMap write ++ r) =
      (statements? r).map ((fields.map entry).map (fun (key, value) => .pair [key] value) ++ ·) := by
  induction fields with
  | nil => exact Option.map_id'.symm
  | cons field fields ih =>
    rw [List.flatMap_cons, List.append_assoc, statements?_write, ih, Option.map_map]
    rfl

theorem statements?_table (header name : Text) (hn : IsBareName name)
    (h : header = '[' :: name ++ "]\n".toList ∨ header = '\n' :: '[' :: name ++ "]\n".toList)
    (fields : List Field) (r : Text) :
    statements? (header ++ (fields.flatMap write ++ r)) =
      (statements? r).map (tableStatements (name, fields.map entry) ++ ·) := by
  have hs (t : Text) := statement?_header hn ('\n' :: t)
  have ht (t : Text) : "]\n".toList ++ t = ']' :: '\n' :: t := rfl
  have hheader (t : Text) : statements? (header ++ t) = (statements? t).map (.table [name] :: ·) := by
    rcases h with rfl | rfl
    · refine statements?_cons ?_ (List.cons_ne_nil '[' _) (hs t) (by simp; omega)
      rw [List.append_assoc, ht]
      rfl
    · refine statements?_cons ?_ (List.cons_ne_nil '[' _) (hs t) (by simp; omega)
      rw [List.append_assoc, ht]
      rfl
  rw [hheader, statements?_flatMap, Option.map_map]
  rfl

theorem nodup_entries {fields : List Field} (h : (fields.map name).Nodup) :
    ((fields.map entry).map (·.1)).Nodup := by
  have hmap : (fields.map entry).map (·.1) = (fields.map name).map String.toList := by
    rw [List.map_map, List.map_map]
    rfl
  rw [hmap]
  exact h.map fun _ _ => String.toList_injective

end Field

def generalFields (general : GeneralSettings) : List Field :=
  (general.cacheDir.map fun dir => Field.ofText "cache_dir" ⟨by decide, rfl⟩ dir).toList ++
    [Field.ofText "log_level" ⟨by decide, rfl⟩ general.logLevel]

def readingFields (reading : ReadingSettings) (h : reading.depth < 2 ^ 63) : List Field :=
  [⟨"max_multipart_depth", _, _, ⟨by decide, rfl⟩, isWritten_count h⟩,
    ⟨"decode_content", _, _, ⟨by decide, rfl⟩, isWritten_boolean reading.decode⟩]

def filingFields (filing : FilingOptions) : List Field :=
  [Field.ofText "sent_folder" ⟨by decide, rfl⟩ filing.sentFolder,
    Field.ofText "mailbox" ⟨by decide, rfl⟩ filing.mailbox,
    Field.ofText "delimiter" ⟨by decide, rfl⟩ filing.delimiter]

theorem general?_entries (general : GeneralSettings) :
    general? (.table .header ((generalFields general).map Field.entry)) = some general := by
  obtain ⟨cacheDir, logLevel⟩ := general
  cases cacheDir with
  | none =>
    have he : (generalFields ⟨none, logLevel⟩).map Field.entry =
        [("log_level".toList, .text logLevel)] := rfl
    rw [he]
    rfl
  | some dir =>
    have he : (generalFields ⟨some dir, logLevel⟩).map Field.entry =
        [("cache_dir".toList, .text dir), ("log_level".toList, .text logLevel)] := rfl
    rw [he]
    rfl

theorem reading?_entries (reading : ReadingSettings) (h : reading.depth < 2 ^ 63) :
    reading? (.table .header ((readingFields reading h).map Field.entry)) = some reading := by
  have he : (readingFields reading h).map Field.entry =
      [("max_multipart_depth".toList, .integer reading.depth),
        ("decode_content".toList, .boolean reading.decode)] := rfl
  have hread : reading? (.table .header [("max_multipart_depth".toList, .integer reading.depth),
      ("decode_content".toList, .boolean reading.decode)]) =
      (count? (.integer reading.depth)).bind fun depth => some ⟨depth, reading.decode⟩ := rfl
  have hcount : count? (.integer reading.depth) = some reading.depth := by simp [count?]
  rw [he, hread, hcount]
  rfl

theorem filing?_entries (filing : FilingOptions) :
    filing? (.table .header ((filingFields filing).map Field.entry)) = some filing := by
  have he : (filingFields filing).map Field.entry = [("sent_folder".toList, .text filing.sentFolder),
    ("mailbox".toList, .text filing.mailbox), ("delimiter".toList, .text filing.delimiter)] := rfl
  rw [he]
  rfl

def tables (s : Settings) (h : s.reading.depth < 2 ^ 63) : List (Text × Entries) :=
  [("general".toList, (generalFields s.general).map Field.entry),
    ("parser".toList, (readingFields s.reading h).map Field.entry),
    ("compose".toList, (filingFields s.filing).map Field.entry)]

theorem ofEntries?_tables (s : Settings) (h : s.reading.depth < 2 ^ 63) :
    ofEntries? ((s.tables h).map fun (name, pairs) => (name, .table .header pairs)) = some s := by
  generalize ht : (s.tables h).map (fun (name, pairs) => (name, Value.table .header pairs)) = entries
  have hg : Entries.get? entries "general".toList =
      some (.table .header ((generalFields s.general).map Field.entry)) := by
    rw [← ht]
    rfl
  have hr : Entries.get? entries "parser".toList =
      some (.table .header ((readingFields s.reading h).map Field.entry)) := by
    rw [← ht]
    rfl
  have hf : Entries.get? entries "compose".toList =
      some (.table .header ((filingFields s.filing).map Field.entry)) := by
    rw [← ht]
    rfl
  rw [ofEntries?, hg, hr, hf]
  simp only [orDefault, general?_entries, reading?_entries, filing?_entries]
  rfl

theorem write_eq (s : Settings) (h : s.reading.depth < 2 ^ 63) :
    s.write = "[general]\n".toList ++ ((generalFields s.general).flatMap Field.write ++
      ("\n[parser]\n".toList ++ ((readingFields s.reading h).flatMap Field.write ++
        ("\n[compose]\n".toList ++ ((filingFields s.filing).flatMap Field.write ++ []))))) := by
  obtain ⟨⟨cacheDir, logLevel⟩, reading, filing⟩ := s
  unfold write
  cases cacheDir <;>
  simp only [generalFields, readingFields, filingFields, Field.ofText, Field.write, List.flatMap_cons,
    List.flatMap_nil, List.append_assoc, Option.map_none, Option.map_some, Option.toList_none,
    Option.toList_some, Option.getD_none, Option.getD_some, List.nil_append, List.append_nil,
    List.cons_append]

theorem statements?_write {s : Settings} (h : s.reading.depth < 2 ^ 63) :
    statements? s.write = some ((s.tables h).flatMap tableStatements) := by
  have hnil : statements? [] = some [] := by
    rw [statements?]
    rfl
  have hgeneral := Field.statements?_table "[general]\n".toList "general".toList ⟨by decide, rfl⟩
    (.inl rfl)
  have hparser := Field.statements?_table "\n[parser]\n".toList "parser".toList ⟨by decide, rfl⟩
    (.inr rfl)
  have hcompose := Field.statements?_table "\n[compose]\n".toList "compose".toList ⟨by decide, rfl⟩
    (.inr rfl)
  rw [write_eq s h, hgeneral, hparser, hcompose, hnil]
  simp [tables]

theorem ofText?_write {s : Settings} (h : s.reading.depth < 2 ^ 63) : ofText? s.write = some s := by
  have hmark : s.write.head? ≠ some '\uFEFF' := by
    rw [show s.write.head? = some '[' from rfl]
    decide
  have hn : (["general", "parser", "compose"].map String.toList).Nodup :=
    List.Nodup.map (fun _ _ => String.toList_injective) (by decide)
  have hk : ∀ table ∈ s.tables h, (table.2.map (·.1)).Nodup := by
    simp only [tables, List.forall_mem_cons]
    refine ⟨Field.nodup_entries ?_, Field.nodup_entries ?_, Field.nodup_entries ?_, by simp⟩
    · rw [generalFields]
      cases s.general.cacheDir
      · exact (by decide : ["log_level"].Nodup)
      · exact (by decide : ["cache_dir", "log_level"].Nodup)
    · exact (by decide : ["max_multipart_depth", "decode_content"].Nodup)
    · exact (by decide : ["sent_folder", "mailbox", "delimiter"].Nodup)
  rw [ofText?, read?_of_statements? hmark (statements?_write h) hn hk, Option.bind_some,
    ofEntries?_tables]

theorem isBounded_fields? {names : List String} {value : Value} (h : value.IsBounded) :
    ∀ fields ∈ fields? names value, ∀ field ∈ fields, ∀ v ∈ field, v.IsBounded := by
  cases h with
  | table he =>
    rintro _ ⟨⟩ field hf v hv
    obtain ⟨name, -, rfl⟩ := List.mem_map.1 hf
    exact Entries.IsBounded.get? he hv
  | series ht =>
    rintro _ ⟨⟩ field hf v hv
    obtain ⟨i, -, rfl⟩ := List.mem_mapIdx.1 hf
    obtain ⟨entries, he, rfl⟩ := Option.map_eq_some_iff.1 hv
    exact .table (ht entries (List.mem_of_getElem? he))
  | array ha =>
    rintro _ ⟨⟩ field hf v hv
    obtain ⟨i, -, rfl⟩ := List.mem_mapIdx.1 hf
    exact ha v (List.mem_of_getElem? hv)
  | dateTime t =>
    rintro _ ⟨⟩ field hf v hv
    obtain ⟨name, -, rfl⟩ := List.mem_map.1 hf
    cases hv
  | text => rintro _ ⟨⟩
  | integer => rintro _ ⟨⟩
  | boolean => rintro _ ⟨⟩
  | float => rintro _ ⟨⟩

theorem lt_of_count? {value : Value} (h : value.IsBounded) {n : ℕ} (hn : count? value = some n) :
    n < 2 ^ 63 := by
  cases h with
  | integer hrange =>
    obtain ⟨h0, hn⟩ := Option.ite_none_right_eq_some.1 hn
    cases hn
    omega
  | _ => cases hn

theorem defaultDepth_lt : Content.defaultDepth < 2 ^ 63 := by decide

theorem depth_lt_of_reading? {value : Value} (h : value.IsBounded) {reading : ReadingSettings}
    (hr : reading? value = some reading) : reading.depth < 2 ^ 63 := by
  obtain ⟨fields, hf, hr⟩ := Option.bind_eq_some_iff.1 hr
  have hfields := isBounded_fields? h fields hf
  split at hr
  · next depth decode =>
    obtain ⟨n, hn, hr⟩ := Option.bind_eq_some_iff.1 hr
    obtain ⟨b, -, hr⟩ := Option.bind_eq_some_iff.1 hr
    cases hr
    cases depth with
    | none =>
      cases hn
      exact defaultDepth_lt
    | some value => exact lt_of_count? (hfields _ List.mem_cons_self value rfl) hn
  · cases hr

theorem depth_lt_of_ofText? {t : Text} {s : Settings} (h : ofText? t = some s) :
    s.reading.depth < 2 ^ 63 := by
  obtain ⟨entries, he, h⟩ := Option.bind_eq_some_iff.1 h
  have hentries := isBounded_document he
  obtain ⟨general, -, h⟩ := Option.bind_eq_some_iff.1 h
  obtain ⟨reading, hr, h⟩ := Option.bind_eq_some_iff.1 h
  obtain ⟨filing, -, h⟩ := Option.bind_eq_some_iff.1 h
  cases h
  cases hget : Entries.get? entries "parser".toList with
  | none =>
    rw [hget] at hr
    cases hr
    exact defaultDepth_lt
  | some value =>
    rw [hget] at hr
    exact depth_lt_of_reading? (hentries.get? hget) hr

theorem depth_lt_of_load (file : Option Bytes) : (load file).reading.depth < 2 ^ 63 := by
  cases file with
  | none => exact defaultDepth_lt
  | some bs =>
    rw [load, Option.map_some, Option.getD_some, ofBytes]
    cases h : (Utf8.decode? bs).bind ofText? with
    | none => exact defaultDepth_lt
    | some s =>
      obtain ⟨t, -, ht⟩ := Option.bind_eq_some_iff.1 h
      exact depth_lt_of_ofText? ht

theorem load_encode_write {s : Settings} (h : s.reading.depth < 2 ^ 63) :
    load (some (Utf8.encode s.write)) = s := by
  rw [load, Option.map_some, Option.getD_some, ofBytes, Utf8.decode?_encode, Option.bind_some,
    ofText?_write h, Option.getD_some]

/-- What is loaded, whatever the file, is loaded again from the file that it is written to. The
settings that can be loaded are those whose depth is in the range of 64 bits, with any texts. -/
theorem load_write :
    (∀ file : Option Bytes, load (some (Utf8.encode (load file).write)) = load file) ∧
      ∀ s : Settings, (∃ file, load file = s) ↔ s.reading.depth < 2 ^ 63 := by
  refine ⟨fun file => load_encode_write (depth_lt_of_load file), fun s => ⟨?_, fun h => ?_⟩⟩
  · rintro ⟨file, rfl⟩
    exact depth_lt_of_load file
  · exact ⟨some (Utf8.encode s.write), load_encode_write h⟩

end MimeMail.Settings
