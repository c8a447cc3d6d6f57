import MimeMail.Toml.Reader

namespace MimeMail.Toml

structure Draft where
  entries : Entries := []
  opened : Key := []

def openTable (name : Text) (entries : Entries) : Option Entries :=
  match entries.get? name with
  | none => some (entries.set name (.table .header []))
  | some (.table .implied sub) => some (entries.set name (.table .header sub))
  | some _ => none

def openNext (name : Text) (entries : Entries) : Option Entries :=
  match entries.get? name with
  | none => some (entries.set name (.series [[]]))
  | some (.series tables) => some (entries.set name (.series (tables ++ [[]])))
  | some _ => none

def Draft.take (draft : Draft) (s : Statement) : Option Draft :=
  let opening (key : Key) (change : Text → Entries → Option Entries) : Option Draft :=
    (atPath false (fun _ entries => change (key.getLastD []) entries) key.dropLast .header
      draft.entries).map fun entries => ⟨entries, key⟩
  match s with
  | .pair key value =>
    (atPath false (fun _ entries => addPair key value entries) draft.opened .header
      draft.entries).map fun entries => { draft with entries }
  | .table key => opening key openTable
  | .series key => opening key openNext

def read? (t : Text) : Option Entries := do
  let t := if t.head? == some '\uFEFF' then t.drop 1 else t
  let statements ← statements? t
  let draft ← statements.foldlM Draft.take {}
  some draft.entries

end MimeMail.Toml
