import MimeMail.Message.Basic

namespace MimeMail

structure FileAccess (m : Type → Type) where
  read : Text → m (Except FileFault Bytes)
  names? : Text → m (Option (List Text))

def Message.ofFile [Charset.Library] {m : Type → Type} [Monad m] (files : FileAccess m) (depth : Nat)
    (path : Text) : m (Except MailError Message) := do
  match ← files.read path with
  | .ok raw => return Message.ofBytes depth raw
  | .error .notFound => return .error (.fileNotFound path)
  | .error fault => return .error (.io path fault)

end MimeMail
