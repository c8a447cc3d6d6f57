import MimeMail.Text.Basic

namespace MimeMail

structure Flags where
  seen : Bool := false
  deleted : Bool := false
  answered : Bool := false
  flagged : Bool := false
  draft : Bool := false
  recent : Bool := false
  deriving DecidableEq

namespace Flags

def symbols (flags : Flags) : List Text :=
  [(flags.seen, "\\Seen"), (flags.deleted, "\\Deleted"), (flags.answered, "\\Answered"),
    (flags.flagged, "\\Flagged"), (flags.draft, "\\Draft"), (flags.recent, "\\Recent")].filterMap
    fun (set, symbol) => if set then some symbol.toList else none

def ofSymbols (symbols : List Text) : Flags :=
  let has (symbol : String) : Bool :=
    symbols.any fun s => Text.same (Text.trim s) symbol.toList
  { seen := has "\\Seen"
    deleted := has "\\Deleted"
    answered := has "\\Answered"
    flagged := has "\\Flagged"
    draft := has "\\Draft"
    recent := has "\\Recent" }

end Flags

inductive FlagUpdate where
  | add
  | remove
  deriving DecidableEq

def FlagUpdate.item : FlagUpdate → Text
  | add => "+FLAGS.SILENT".toList
  | remove => "-FLAGS.SILENT".toList

end MimeMail
