import MimeMail.Command.Run
import MimeMail.Settings.Paths
import Std.Time.DateTime.Timestamp

namespace MimeMail

def FileFault.ofError : IO.Error → FileFault
  | .noFileOrDirectory _ _ _ => .notFound
  | .inappropriateType _ code details => ofCode code details
  | .invalidArgument _ code details => ofCode code details
  | .otherError code details => ofCode code details
  | e => .other (toString e).toList
where
  ofCode (code : UInt32) (details : String) : FileFault :=
    match min code (0 - code) with
    | 20 => .notDirectory
    | 21 => .isDirectory
    | 36 => .nameTooLong
    | _ => .other details.toList

def diskFiles : FileAccess IO where
  read path := do
    try
      if path.contains '\x00' then return .error .nulInName
      return .ok (← IO.FS.readBinFile (String.ofList path)).toList
    catch e => return .error (.ofError e)
  names? path := do
    try
      let directory ← IO.FS.realPath (String.ofList path)
      if !(← directory.isDir) then return none
      return some ((← directory.readDir).toList.map (·.fileName.toList))
    catch _ => return none

def Environment.get : IO Environment := do
  let get (name : String) : IO (Option Text) := return (← IO.getEnv name).map String.toList
  return {
    settingsFile := ← get "WATNEY_CONFIG"
    configHome := ← get "XDG_CONFIG_HOME"
    cacheHome := ← get "XDG_CACHE_HOME"
    home := ← get "HOME" }

def Instant.now : IO Instant := do
  let d := (← Std.Time.Timestamp.now).toDurationSinceUnixEpoch
  return ⟨d.second.val, d.nano.val.toNat⟩

def Settings.get (env : Environment) : IO Settings := do
  match env.settingsPath? with
  | some path => return .load (← diskFiles.read path).toOption
  | none => return {}

end MimeMail

open MimeMail in
def main (arguments : List String) : IO UInt32 := do
  let settings ← Settings.get (← Environment.get)
  let outcome ← Command.runArguments diskFiles settings (← Instant.now) (arguments.map String.toList)
  IO.print (String.ofList outcome.output)
  if let some message := outcome.error then
    IO.eprintln ("Error: " ++ String.ofList message)
  return outcome.exitCode.toUInt32
