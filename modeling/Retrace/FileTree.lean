import Retrace.Disk
import Retrace.Text.Search
/-!
# File trees

The files and directories below a working directory, and the disk that they make.  A path is walked
part by part: `.` and empty parts stay where they are, `..` goes up, and every part needs a
directory to start from.  Nothing is known of what lies outside the working directory, except that
there are directories.
-/

namespace Retrace

/-- Files and directories by the names that lead to them.  The directories on the way to an entry
need no entries of their own. -/
structure FileTree where
  entries : List (List (List Char) × Disk.Node)
deriving Repr, DecidableEq

namespace FileTree

/-- A place on the way along a path. -/
inductive Place
  /-- Below the working directory, by the names that lead there. -/
  | inside (names : List (List Char))
  /-- In a directory outside the working directory. -/
  | outside
deriving Repr, DecidableEq

/-- The most bytes of a name. -/
def nameLimit : Nat := 255

/-- The most bytes of a path. -/
def pathLimit : Nat := 4095

/-- The tree without any files. -/
def empty : FileTree := ⟨[]⟩

/-- The names of a path. -/
def namesOf (path : List Char) : List (List Char) :=
  (Text.splitOn '/' path).filter fun part => !part.isEmpty && part ≠ ['.']

/-- Puts a file or a directory at a path, in the place of the one that is there. -/
def put (tree : FileTree) (path : List Char) (node : Disk.Node) : FileTree :=
  ⟨tree.entries.filter (fun e => e.1 ≠ namesOf path) ++ [(namesOf path, node)]⟩

/-- Whether one list of names leads to a place that is below that of another. -/
def isBelow (names above : List (List Char)) : Bool :=
  above.length < names.length && names.take above.length == above

/-- What is at the end of some names. -/
def node? (tree : FileTree) (names : List (List Char)) : Option Disk.Node :=
  match tree.entries.find? fun e => e.1 = names with
  | some e => some e.2
  | none =>
    if names.isEmpty || tree.entries.any fun e => isBelow e.1 names then some .directory else none

/-- What is at a place. -/
def at? (tree : FileTree) : Place → Option Disk.Node
  | .inside names => tree.node? names
  | .outside => some .directory

/-- The place that a name leads to. -/
def enter? (tree : FileTree) (place : Place) (name : List Char) : Except Disk.Error Place :=
  if nameLimit < (Utf8.encode name).length then .error .nameTooLong
  else
    match place with
    | .outside => .error .missing
    | .inside names =>
      match tree.node? (names ++ [name]) with
      | some _ => .ok (.inside (names ++ [name]))
      | none => .error .missing

/-- The place above. -/
def Place.up : Place → Place
  | .inside [] => .outside
  | .inside names => .inside names.dropLast
  | .outside => .outside

/-- The place that the parts of a path lead to. -/
def walk? (tree : FileTree) : Place → List (List Char) → Except Disk.Error Place
  | place, [] => .ok place
  | place, part :: parts =>
    match tree.at? place with
    | some (.file _) => .error .notDirectory
    | _ =>
      if part.isEmpty || part = ['.'] then walk? tree place parts
      else if part = ['.', '.'] then walk? tree place.up parts
      else
        match tree.enter? place part with
        | .error e => .error e
        | .ok place => walk? tree place parts

/-- What a path leads to. -/
def find? (tree : FileTree) (path : List Char) : Except Disk.Error Disk.Node :=
  if path.contains '\x00' then .error .nulInPath
  else if path.isEmpty then .error .missing
  else if pathLimit < (Utf8.encode path).length then .error .nameTooLong
  else
    let start : Place := if path.head? = some '/' then .outside else .inside []
    match tree.walk? start (Text.splitOn '/' path) with
    | .error e => .error e
    | .ok place =>
      match tree.at? place with
      | some node => .ok node
      | none => .error .missing

/-- The disk whose working directory holds the tree. -/
def disk (tree : FileTree) : Disk := ⟨fun path => tree.find? path.toList⟩

end FileTree

end Retrace
