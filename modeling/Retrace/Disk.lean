import Retrace.Text.Utf8
/-!
# Files on disk

A disk answers for each path what it leads to, a file or a directory, or why it leads nowhere.
-/

namespace Retrace

namespace Disk

/-- What a path leads to. -/
inductive Node
  | file (data : Bytes)
  | directory
deriving Repr, DecidableEq

/-- Why a path leads nowhere or its content cannot be read. -/
inductive Error
  | missing
  | notDirectory
  | isDirectory
  | nameTooLong
  /-- A path with the character NUL, which no name may have. -/
  | nulInPath
  /-- Content that is no text. -/
  | notText
deriving Repr, DecidableEq

/-- The wording of an error. -/
def Error.message : Error → String
  | .missing => "No such file or directory (os error 2)"
  | .notDirectory => "Not a directory (os error 20)"
  | .isDirectory => "Is a directory (os error 21)"
  | .nameTooLong => "File name too long (os error 36)"
  | .nulInPath => "file name contained an unexpected NUL byte"
  | .notText => "stream did not contain valid UTF-8"

/-- The number that is given as the size of a directory. -/
def directorySize : Nat := 4096

end Disk

/-- What each path leads to. -/
structure Disk where
  find? : String → Except Disk.Error Disk.Node

namespace Disk

/-- Whether a path leads to anything. -/
def has (disk : Disk) (path : String) : Bool :=
  match disk.find? path with
  | .ok _ => true
  | .error _ => false

/-- The size of what a path leads to. -/
def size? (disk : Disk) (path : String) : Except Error Nat :=
  match disk.find? path with
  | .error e => .error e
  | .ok (.file data) => .ok data.length
  | .ok .directory => .ok directorySize

/-- The content of the file that a path leads to. -/
def read? (disk : Disk) (path : String) : Except Error Bytes :=
  match disk.find? path with
  | .error e => .error e
  | .ok (.file data) => .ok data
  | .ok .directory => .error .isDirectory

/-- The text of the file that a path leads to. -/
def readText? (disk : Disk) (path : String) : Except Error (List Char) :=
  match disk.read? path with
  | .error e => .error e
  | .ok data =>
    match Utf8.decode? data with
    | .ok text => .ok text
    | .error _ => .error .notText

end Disk

end Retrace
