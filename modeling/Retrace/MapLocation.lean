import Retrace.FilePath
import Retrace.Text.Base64
import Retrace.Text.Blank
import Retrace.Text.Quoted
import Retrace.Url.Parser
/-!
# Where a source map is

The value of a directive is a URL, a reference relative to the generated file, or a `data:` URL that
holds the map itself.  References are resolved against the URL of the generated file, or against its
directory when it is a file on disk; the sources of a map are resolved against the map.

A URL whose scheme is a single letter is the path of a file on a drive.
-/

namespace Retrace

/-- The URL that a location is, if it is one. -/
def locationUrl? (location : String) : Option Url :=
  match Url.parse? location.toList with
  | .ok url => if 1 < url.scheme.length then some url else none
  | .error _ => none

/-- Whether a location is a URL. -/
def isUrl (location : String) : Bool :=
  (locationUrl? location).isSome

/-- Where a source map is. -/
inductive MapLocation
  /-- In a place of its own, to be fetched. -/
  | external (location : String)
  /-- In the generated file. -/
  | inline (data : Bytes)
deriving Repr, DecidableEq

namespace MapLocation

/-- Why a `data:` URL does not hold a map. -/
inductive InlineError
  | missingComma
  | base64 (e : Base64.Error)
  | text (e : Utf8.Error)
deriving Repr, DecidableEq

/-- The wording of an error. -/
def InlineError.message : InlineError → String
  | .missingComma => "missing ',' in data URL"
  | .base64 e => e.message
  | .text e => e.message

/-- Why a value does not say where a map is. -/
inductive Error
  | badUrl (url : String) (e : Url.Error)
  | inline (e : InlineError)
deriving Repr, DecidableEq

/-- The wording of an error. -/
def Error.message : Error → String
  | .badUrl url e => "invalid source map url " ++ quoted url ++ ": " ++ e.message
  | .inline e => "invalid inline source map: " ++ e.message

/-- The start of a value that holds the map itself. -/
def dataMark : List Char := "data:".toList

/-- Whether the part of a `data:` URL before its comma says that base64 follows. -/
def saysBase64 (media : List Char) : Bool :=
  (Text.splitOn ';' media).any fun part => Text.sameIgnoringCase part "base64".toList

/-- The bytes that a `data:` URL holds, from the text after its mark. -/
def inlineData? (text : List Char) : Except InlineError Bytes :=
  match Text.splitFirst? [','] text with
  | none => .error .missingComma
  | some (media, payload) =>
    if saysBase64 media then
      match Base64.decode? (Utf8.encode (Text.trim payload)) with
      | .ok data => .ok data
      | .error e => .error (.base64 e)
    else
      let data := Percent.decode (Utf8.encode payload)
      match Utf8.decode? data with
      | .ok _ => .ok data
      | .error e => .error (.text e)

/-- The place of a map whose directive in the file at `source` has the value `url`. -/
def resolve? (source url : String) : Except Error MapLocation :=
  match Text.after? dataMark url.toList with
  | some text =>
    match inlineData? text with
    | .ok data => .ok (.inline data)
    | .error e => .error (.inline e)
  | none =>
    if isUrl url then .ok (.external url)
    else
      match locationUrl? source with
      | some base =>
        match base.join? url.toList with
        | .ok joined => .ok (.external joined.toString)
        | .error e => .error (.badUrl url e)
      | none =>
        .ok (.external (String.ofList
          (FilePath.join (FilePath.parent source.toList) url.toList)))

/-- A reference that is no URL, in a file that is on disk, is a path beside the file. -/
theorem resolve?_beside {source url : String} (hdata : Text.after? dataMark url.toList = none)
    (hurl : isUrl url = false) (hsource : locationUrl? source = none) :
    resolve? source url = .ok (.external (String.ofList
      (FilePath.join (FilePath.parent source.toList) url.toList))) := by
  rw [resolve?, hdata]
  simp only [hurl, hsource, Bool.false_eq_true, if_false]

/-- The location of a source of the map at `mapLocation`.  Only the sources of a map from the web
are resolved, and one that cannot be is kept as it is. -/
def sourceName (mapLocation source : String) : String :=
  if isUrl source then source
  else
    match (locationUrl? mapLocation).filter Url.isWeb with
    | none => source
    | some base =>
      match base.join? source.toList with
      | .ok joined => joined.toString
      | .error _ => source

end MapLocation

end Retrace
