import Retrace.Text.Search
/-!
# File paths

Paths whose components are separated by slashes.  Empty components and `.` name nothing, except
that a path may start with a slash, which is the root, or with `.`, which is the place itself.
-/

namespace Retrace

namespace FilePath

/-- Whether a part between slashes names something. -/
def isNamed (part : List Char) : Bool :=
  !part.isEmpty && part ≠ ['.']

/-- The start of a path, which is the root, the place itself or nothing, and what follows it. -/
def splitStart : List Char → List Char × List Char
  | ['.'] => (['.'], [])
  | '.' :: '/' :: rest => (['.'], '/' :: rest)
  | '/' :: rest => (['/'], rest)
  | path => ([], path)

/-- Parts without those at the end that name nothing. -/
def dropUnnamed (parts : List (List Char)) : List (List Char) :=
  (parts.reverse.dropWhile fun part => !isNamed part).reverse

/-- The path without its last component; a path with no component after its start has the empty
one. -/
def parent (path : List Char) : List Char :=
  let (start, body) := splitStart path
  match (dropUnnamed (Text.splitOn '/' body)).reverse with
  | [] => []
  | _ :: before => start ++ Text.joinWith ['/'] (dropUnnamed before.reverse)

/-- The path of something in a directory; a path from the root stands for itself. -/
def join (directory path : List Char) : List Char :=
  if path.head? = some '/' then path
  else if directory.isEmpty || directory.getLast? = some '/' then directory ++ path
  else directory ++ '/' :: path

/-- The components of a path. -/
def components (path : List Char) : List (List Char) :=
  let (start, body) := splitStart path
  (if start.isEmpty then [] else [start]) ++ (Text.splitOn '/' body).filter isNamed

end FilePath

end Retrace
