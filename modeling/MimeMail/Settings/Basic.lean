import MimeMail.Content.Read
import MimeMail.Message.Append
import MimeMail.Toml.Document

namespace MimeMail

structure GeneralSettings where
  cacheDir : Option Text := none
  logLevel : Text := "warn".toList
  deriving DecidableEq

structure ReadingSettings where
  depth : Nat := Content.defaultDepth
  decode : Bool := false
  deriving DecidableEq

structure Settings where
  general : GeneralSettings := {}
  reading : ReadingSettings := {}
  filing : FilingOptions := {}
  deriving DecidableEq

namespace Settings

open Toml

def fields? (names : List String) : Value → Option (List (Option Value))
  | .table _ entries => some (names.map fun name => Entries.get? entries name.toList)
  | .series tables => some (names.mapIdx fun i _ => tables[i]?.map (Value.table .header))
  | .array values => some (names.mapIdx fun i _ => values[i]?)
  | .dateTime _ => some (names.map fun _ => none)
  | _ => none

def orDefault {α : Type} (read? : Value → Option α) (default : α) : Option Value → Option α
  | some value => read? value
  | none => some default

def text? : Value → Option Text
  | .text t => some t
  | _ => none

def boolean? : Value → Option Bool
  | .boolean b => some b
  | _ => none

def count? : Value → Option Nat
  | .integer n => if 0 ≤ n then some n.toNat else none
  | _ => none

def general? (value : Value) : Option GeneralSettings := do
  match ← fields? ["cache_dir", "log_level"] value with
  | [cacheDir, logLevel] =>
    let d : GeneralSettings := {}
    some {
      cacheDir := ← orDefault (fun v => (text? v).map some) d.cacheDir cacheDir
      logLevel := ← orDefault text? d.logLevel logLevel }
  | _ => none

def reading? (value : Value) : Option ReadingSettings := do
  match ← fields? ["max_multipart_depth", "decode_content"] value with
  | [depth, decode] =>
    let d : ReadingSettings := {}
    some {
      depth := ← orDefault count? d.depth depth
      decode := ← orDefault boolean? d.decode decode }
  | _ => none

def filing? (value : Value) : Option FilingOptions := do
  match ← fields? ["sent_folder", "mailbox", "delimiter"] value with
  | [sentFolder, mailbox, delimiter] =>
    let d : FilingOptions := {}
    some {
      sentFolder := ← orDefault text? d.sentFolder sentFolder
      mailbox := ← orDefault text? d.mailbox mailbox
      delimiter := ← orDefault text? d.delimiter delimiter }
  | _ => none

def ofEntries? (entries : Entries) : Option Settings := do
  some {
    general := ← orDefault general? {} (Entries.get? entries "general".toList)
    reading := ← orDefault reading? {} (Entries.get? entries "parser".toList)
    filing := ← orDefault filing? {} (Entries.get? entries "compose".toList) }

def ofText? (t : Text) : Option Settings := (Toml.read? t).bind ofEntries?

def ofBytes (bs : Bytes) : Settings := ((Utf8.decode? bs).bind ofText?).getD {}

def load (file : Option Bytes) : Settings := (file.map ofBytes).getD {}

def line (name : String) (value : Text) : Text := name.toList ++ " = ".toList ++ value ++ ['\n']

def write (settings : Settings) : Text :=
  "[general]\n".toList ++
    ((settings.general.cacheDir.map fun dir => line "cache_dir" (Quoted.write dir)).getD []) ++
    line "log_level" (Quoted.write settings.general.logLevel) ++
    "\n[parser]\n".toList ++
    line "max_multipart_depth" (Digits.ofNat settings.reading.depth) ++
    line "decode_content" (if settings.reading.decode then "true" else "false").toList ++
    "\n[compose]\n".toList ++
    line "sent_folder" (Quoted.write settings.filing.sentFolder) ++
    line "mailbox" (Quoted.write settings.filing.mailbox) ++
    line "delimiter" (Quoted.write settings.filing.delimiter)

end Settings

end MimeMail
