import Retrace.Json.Record
import Retrace.SourceMap.Mappings
/-!
# Source maps

A source map says which sources a generated file was made from, what they hold, which names they
used, and by its mappings where each part of the file came from.

`SourceMap.parse?` reads one from the bytes of a file; `SourceMap.lookup?` answers for a place in
the generated file.
-/

namespace Retrace

/-- A source map. -/
structure SourceMap where
  version : Nat
  file : Option String
  /-- What stands in front of the names of all sources. -/
  sourceRoot : Option String
  sources : List String
  /-- The contents of the sources, as far as they are known. -/
  sourcesContent : List (Option String)
  names : List String
  mappings : Mappings
deriving Repr, DecidableEq

namespace SourceMap

/-- Why bytes are no source map. -/
inductive Error
  | json (e : Json.Error)
  | version (found : Nat)
  | mappings (e : Mappings.Error)
deriving Repr, DecidableEq

/-- The wording of an error. -/
def Error.message : Error → String
  | .json e => "invalid source map JSON: " ++ e.message
  | .version found => s!"invalid source map version: expected 3, got {found}"
  | .mappings e => e.message

/-- A map as its JSON text gives it, while it is read. -/
structure Draft where
  version : Option Nat
  file : Option (Option String)
  sourceRoot : Option (Option String)
  sources : Option (List (Option String))
  sourcesContent : Option (Option (List (Option String)))
  names : Option (List String)
  mappings : Option String

/-- A map as its JSON text gives it, with its mappings still to be read. -/
structure Raw where
  version : Nat
  file : Option String
  sourceRoot : Option String
  sources : List (Option String)
  sourcesContent : List (Option String)
  names : List String
  mappings : String
deriving Repr, DecidableEq

/-- The map of a draft; only the version and the mappings have to be there. -/
def Draft.finish (d : Draft) : Except String Raw := do
  let version ← Json.required "version" d.version
  let mappings ← Json.required "mappings" d.mappings
  return {
    version
    file := d.file.getD none
    sourceRoot := d.sourceRoot.getD none
    sources := d.sources.getD []
    sourcesContent := (d.sourcesContent.getD none).getD []
    names := d.names.getD []
    mappings }

/-- How a map is written in JSON. -/
def format : Json.Record Draft Raw where
  name := "RawSourceMap"
  blank := ⟨none, none, none, none, none, none, none⟩
  finish := Draft.finish
  fields :=
    [ .of "version" .unsigned32 (·.version.isSome) (fun d v => { d with version := some v }) false,
      .of "file" (.optional .text) (·.file.isSome) (fun d v => { d with file := some v }) true,
      .of "sourceRoot" (.optional .text) (·.sourceRoot.isSome)
        (fun d v => { d with sourceRoot := some v }) true,
      .of "sources" (.list (.optional .text)) (·.sources.isSome)
        (fun d v => { d with sources := some v }) true,
      .of "sourcesContent" (.optional (.list (.optional .text))) (·.sourcesContent.isSome)
        (fun d v => { d with sourcesContent := some v }) true,
      .of "names" (.list .text) (·.names.isSome) (fun d v => { d with names := some v }) true,
      .of "mappings" .text (·.mappings.isSome) (fun d v => { d with mappings := some v }) false ]

/-- The mark at the start of a file that keeps it from being run as a script. -/
def guardMark : Bytes := [0x29, 0x5D, 0x7D, 0x27]

/-- Whether bytes start with the guard mark. -/
def isGuarded (data : Bytes) : Bool :=
  data.take guardMark.length == guardMark

/-- The bytes without a guard mark, which takes the whole first line if there is another one. -/
def dropGuard (data : Bytes) : Bytes :=
  if isGuarded data then
    match data.dropWhile (· ≠ 0x0A) with
    | [] => data.drop guardMark.length
    | _ :: rest => rest
  else data

/-- A map whose mappings are read. -/
def Raw.withMappings (raw : Raw) (mappings : Mappings) : SourceMap where
  version := raw.version
  file := raw.file
  sourceRoot := raw.sourceRoot
  sources := raw.sources.map fun s => s.getD ""
  sourcesContent := raw.sourcesContent
  names := raw.names
  mappings := mappings

/-- The source map that bytes hold. -/
def parse? (data : Bytes) : Except Error SourceMap :=
  match Json.read format.reader (dropGuard data) with
  | .error e => .error (.json e)
  | .ok raw =>
    if raw.version ≠ 3 then .error (.version raw.version)
    else
      match Mappings.decode? raw.mappings.toList with
      | .error e => .error (.mappings e)
      | .ok mappings => .ok (raw.withMappings mappings)

/-- A place in a source, the line from one and the column from zero. -/
structure Position where
  source : String
  sourceIndex : Nat
  line : Nat
  column : Nat
  name : Option String
deriving Repr, DecidableEq

/-- Why a place in the generated file came from no source. -/
inductive LookupError
  | unknownSource (index : Nat)
  | noMapping (line column : Nat)
deriving Repr, DecidableEq

/-- The wording of an error. -/
def LookupError.message : LookupError → String
  | .unknownSource index => s!"invalid source index: {index}"
  | .noMapping line column => s!"no mapping found for line {line}, column {column}"

/-- A root without the slashes at its end. -/
def trimSlashes (root : List Char) : List Char :=
  (root.reverse.dropWhile (· == '/')).reverse

/-- The name of a source behind the root of the map. -/
def qualify (sourceRoot : Option String) (source : String) : String :=
  match sourceRoot with
  | none => source
  | some root =>
    if root.isEmpty then source else String.ofList (trimSlashes root.toList) ++ "/" ++ source

/-- Where the place at a line, from one, and a column, from zero, came from. -/
def lookup? (m : SourceMap) (line column : Nat) : Except LookupError Position :=
  if line = 0 then .error (.noMapping line column)
  else
    match m.mappings.find? (line - 1) column with
    | none => .error (.noMapping line column)
    | some segment =>
      match segment.origin with
      | none => .error (.noMapping line column)
      | some origin =>
        match m.sources[origin.source]? with
        | none => .error (.unknownSource origin.source)
        | some source =>
          .ok {
            source := qualify m.sourceRoot source
            sourceIndex := origin.source
            line := origin.line + 1
            column := origin.column
            name := segment.name.bind fun i => m.names[i]? }

/-- What a source holds, if the map says so. -/
def contentOf (m : SourceMap) (index : Nat) : Option String :=
  (m.sourcesContent[index]?).join

/-- Whether the map says of any source what it holds. -/
def hasContent (m : SourceMap) : Bool :=
  m.sourcesContent.any Option.isSome

end SourceMap

end Retrace
