import MimeMail.Command.Basic
import MimeMail.Command.Export
import MimeMail.Command.Report
import MimeMail.Content.Decode
import MimeMail.Settings.Basic
import MimeMail.Storage.Access

namespace MimeMail

structure Outcome where
  exitCode : Nat := 0
  output : Text := []
  error : Option Text := none
  deriving DecidableEq

namespace Outcome

def failure (message : Text) : Outcome := { exitCode := 1, error := some message }

def misuse : Outcome := { exitCode := 2 }

def ofResult {α : Type} (print : α → Text) : Except MailError α → Outcome
  | .ok x => { output := print x }
  | .error e => failure e.message

end Outcome

namespace Command

variable [Charset.Library] {m : Type → Type} [Monad m]

def versionText : Text := "watney 0.1.0\n".toList

def runParse (files : FileAccess m) (settings : Settings) (path : Text) (json decode : Bool) :
    m Outcome := do
  let result ← Message.ofFile files settings.reading.depth path
  let undo (content : Content) : Content :=
    if decode || settings.reading.decode then content.decode else content
  return .ofResult (fun message =>
    let message := { message with content := message.content.map undo }
    if json then Report.line (message.toJson.render 0) else Report.message message) result

def isMailName (name : Text) : Bool :=
  match name.reverse with
  | l :: m :: e :: '.' :: _ :: _ => Text.same [e, m, l] "eml".toList
  | _ => false

def readAll (files : FileAccess m) (depth : Nat) : List Text → m (List Message)
  | [] => return []
  | path :: paths => do
    let result ← Message.ofFile files depth path
    let messages ← readAll files depth paths
    return result.toOption.toList ++ messages

def runList (files : FileAccess m) (settings : Settings) (directory : Text) (json : Bool) :
    m Outcome := do
  match ← files.names? directory with
  | none => return .failure ("Not a directory: ".toList ++ directory)
  | some names =>
    let names := (names.filter isMailName).mergeSort fun s t => !decide (t < s)
    let messages ← readAll files settings.reading.depth (names.map (directory ++ '/' :: ·))
    let messages := Message.newestFirst messages
    return {
      output :=
        if json then
          Report.line (Json.render 0 (.array (messages.map fun message => message.header.toJson)))
        else Report.overview Widths.terminal messages }

def runSerialize (files : FileAccess m) (settings : Settings) (path : Text) : m Outcome := do
  let result ← Message.ofFile files settings.reading.depth path
  return .ofResult (fun message => Report.line message.header.write) result

def readText (files : FileAccess m) : Option Text → m (Except FileFault Text)
  | none => return .ok []
  | some path => return (← files.read path).bind fun bs => (Utf8.decode? bs).elim (.error .notUtf8) .ok

def runCompose (files : FileAccess m) (settings : Settings) (now : Instant) (sender : Text)
    (receivers : List Text) (subject : Text) (body : Option Text) : m Outcome := do
  match ← readText files body with
  | .error fault => return .failure fault.message
  | .ok content =>
    let h := sentHeader settings.filing sender receivers subject now
    let request := AppendRequest.make settings.filing h sentFlags content
    return {
      output :=
        Report.line ("Mailbox: ".toList ++ request.mailbox) ++
          Report.line ("Flags:   ".toList ++ Text.join [' '] request.flags) ++ Report.line [] ++
          request.message }

def run (files : FileAccess m) (settings : Settings) (now : Instant) : Command → m Outcome
  | .parse path json decode => runParse files settings path json decode
  | .list directory json => runList files settings directory json
  | .serialize path => runSerialize files settings path
  | .compose sender receivers subject body =>
    runCompose files settings now sender receivers subject body
  | .version => return { output := versionText }

def runArguments (files : FileAccess m) (settings : Settings) (now : Instant)
    (arguments : List Text) : m Outcome :=
  match ofArguments? arguments with
  | some command => run files settings now command
  | none => return .misuse

end Command

end MimeMail
