import MimeMail.Storage.Access

namespace MimeMail

structure FileTree.Entry where
  path : List Text
  data : Option Bytes

structure FileTree where
  entries : List FileTree.Entry := []

namespace FileTree

inductive Node where
  | file (data : Bytes)
  | directory

def names (path : Text) : List Text := go path []
where
  go : Text → Text → List Text
    | [], name => [name.reverse]
    | c :: r, name => if c == '/' then name.reverse :: go r [] else go r (c :: name)

def node? (tree : FileTree) (path : List Text) : Option Node :=
  match tree.entries.find? (·.path == path) with
  | some entry => some (entry.data.elim .directory .file)
  | none =>
    if path.isEmpty || tree.entries.any (path.isPrefixOf ·.path) then some .directory else none

def nameBytes : Nat := 255

def walk (tree : FileTree) (place : List Text) : List Text → Except FileFault (List Text × Node)
  | [] => (tree.node? place).elim (.error .notFound) fun node => .ok (place, node)
  | name :: r =>
    match tree.node? place with
    | none => .error .notFound
    | some (.file _) => .error .notDirectory
    | some .directory =>
      if name.isEmpty || name == ['.'] then walk tree place r
      else if name == ['.', '.'] then walk tree place.dropLast r
      else if nameBytes < (Utf8.encode name).length then .error .nameTooLong
      else walk tree (place ++ [name]) r

def find (tree : FileTree) (path : Text) : Except FileFault (List Text × Node) :=
  if path.contains '\x00' then .error .nulInName
  else if path.isEmpty then .error .notFound
  else
    let names := names path
    if path.head? == some '/' then
      if names.all (·.isEmpty) then .ok ([], .directory) else .error .notFound
    else tree.walk [] names

def read (tree : FileTree) (path : Text) : Except FileFault Bytes :=
  match tree.find path with
  | .ok (_, .file data) => .ok data
  | .ok (_, .directory) => .error .isDirectory
  | .error fault => .error fault

def children (tree : FileTree) (path : List Text) : List Text :=
  (tree.entries.filterMap fun entry => (dropStart? path entry.path).bind List.head?).eraseDups

def names? (tree : FileTree) (path : Text) : Option (List Text) :=
  match tree.find path with
  | .ok (place, .directory) => some (tree.children place)
  | _ => none

def ofEntries (entries : List (Text × Option Bytes)) : FileTree where
  entries := entries.map fun (path, data) => ⟨(names path).filter (!·.isEmpty), data⟩

def access (tree : FileTree) : FileAccess Id where
  read path := tree.read path
  names? path := tree.names? path

end FileTree

end MimeMail
