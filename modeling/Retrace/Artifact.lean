import Retrace.Decimal.Integer
import Retrace.Json.Printer
import Retrace.Text.Blank
import Retrace.Text.Search
/-!
# Artifacts

An artifact is a generated file or a source map of some release of a project.  Its key says which
release it belongs to and where it was found, in a form in which URLs, paths from the root and other
paths do not meet.
-/

namespace Retrace

/-- The number of a project, which has sixty-four bits and a sign. -/
structure ProjectId where
  number : Int64
deriving Repr, DecidableEq

namespace ProjectId

/-- The text of a project's number. -/
def text (p : ProjectId) : String :=
  toString p.number.toInt

/-- The project whose number a text writes, with any blanks around it. -/
def read (text : List Char) : Except Integer.Error ProjectId :=
  (Integer.read Integer.minSigned64 Integer.maxSigned64 (Text.trim text)).map fun n =>
    ⟨Int64.ofInt n⟩

end ProjectId

/-- A release of a project, whose version may be unknown. -/
structure Release where
  project : ProjectId
  version : Option String
deriving Repr, DecidableEq

/-- The key under which a store keeps an artifact. -/
structure ArtifactKey where
  project : ProjectId
  version : String
  /-- The location in its normal form. -/
  location : String
deriving Repr, DecidableEq

namespace ArtifactKey

/-- The version of a release that has none. -/
def unversioned : String := "unversioned"

/-- What sets off the scheme of a URL. -/
def schemeMark : List Char := "://".toList

/-- Whether a text is a scheme; single letters are drives. -/
def isScheme (text : List Char) : Bool :=
  match text with
  | c :: rest =>
    !rest.isEmpty && c.isAlpha &&
      rest.all fun c => c.isAlphanum || c = '+' || c = '-' || c = '.'
  | [] => false

/-- The scheme of a location and what follows its mark. -/
def splitScheme? (location : List Char) : Option (List Char × List Char) :=
  (Text.splitFirst? schemeMark location).filter fun p => isScheme p.1

/-- A path without the marks of the current directory in front of it. -/
def dropCurrent : List Char → List Char
  | '.' :: '/' :: rest => dropCurrent rest
  | path => path

/-- The normal form of a location: the scheme and the rest of a URL, or a path under one name for
those from the root and under another for all others. -/
def normalize (location : List Char) : List Char :=
  match splitScheme? location with
  | some (scheme, rest) => scheme.map Char.toLower ++ '/' :: rest
  | none =>
    match location with
    | '/' :: path => "disk/abs/".toList ++ path
    | path => "disk/rel/".toList ++ dropCurrent path

/-- The version of a key; an empty one counts as unknown. -/
def versionOf (version : Option String) : String :=
  match version with
  | some v => if v.isEmpty then unversioned else v
  | none => unversioned

/-- The key of an artifact of a release. -/
def make (release : Release) (location : String) : ArtifactKey where
  project := release.project
  version := versionOf release.version
  location := String.ofList (normalize location.toList)

/-- The text of a key. -/
def text (key : ArtifactKey) : String :=
  key.project.text ++ "/" ++ key.version ++ "/" ++ key.location

/-- The members of a key in JSON. -/
def members (key : ArtifactKey) : Json.Members :=
  [("project_id", .number key.project.number.toInt), ("version", .text key.version),
    ("location", .text key.location)]

end ArtifactKey

/-- The key of an artifact of a release. -/
def Release.key (release : Release) (location : String) : ArtifactKey :=
  .make release location

end Retrace
