import Retrace.Decimal.Integer
import Retrace.Dictionary
import Retrace.Json.Record
import Retrace.Settings.Basic
import Retrace.Text.Blank
import Retrace.Toml.Parser
/-!
# Where settings come from

A layer of settings comes from JSON, from the variables of the environment, or from the
`symbolication` table of a TOML file.  A source with a higher precedence decides over one with a
lower one.
-/

namespace Retrace

namespace Settings

/-! ### JSON -/

/-- A layer while it is read; a member may be there with the value `null`. -/
structure Draft where
  contextLines : Option (Option Nat)
  requestTimeoutSecs : Option (Option Nat)
  maxArtifactBytes : Option (Option Nat)
  cacheCapacity : Option (Option Nat)
  cacheTtlSecs : Option (Option Nat)

/-- The layer of a draft. -/
def Draft.finish (d : Draft) : Layer where
  contextLines := d.contextLines.join
  requestTimeoutSecs := d.requestTimeoutSecs.join
  maxArtifactBytes := d.maxArtifactBytes.join
  cacheCapacity := d.cacheCapacity.join
  cacheTtlSecs := d.cacheTtlSecs.join

/-- How a layer is written in JSON. -/
def Layer.format : Json.Record Draft Layer where
  name := "SymbolicationConfigLayer"
  blank := ⟨none, none, none, none, none⟩
  finish d := .ok d.finish
  fields :=
    [ .of "context_lines" (.optional .count) (·.contextLines.isSome)
        (fun d v => { d with contextLines := some v }) false,
      .of "request_timeout_secs" (.optional .unsigned64) (·.requestTimeoutSecs.isSome)
        (fun d v => { d with requestTimeoutSecs := some v }) false,
      .of "max_artifact_bytes" (.optional .unsigned64) (·.maxArtifactBytes.isSome)
        (fun d v => { d with maxArtifactBytes := some v }) false,
      .of "cache_capacity" (.optional .count) (·.cacheCapacity.isSome)
        (fun d v => { d with cacheCapacity := some v }) false,
      .of "cache_ttl_secs" (.optional .unsigned64) (·.cacheTtlSecs.isSome)
        (fun d v => { d with cacheTtlSecs := some v }) false ]

/-- The layer that a JSON text writes. -/
def Layer.read (text : Bytes) : Except Json.Error Layer :=
  Json.read Layer.format.reader text

/-! ### The environment -/

/-- The variables of the environment with their values. -/
abbrev Environment := Dictionary String

/-- The number that a variable gives.  A variable without a value counts as not set, and blanks
around the number do not matter. -/
def number? (environment : Environment) (name : String) : Except Error (Option Nat) :=
  match environment.get? name with
  | none => .ok none
  | some value =>
    if value.isEmpty then .ok none
    else
      match Integer.readUpTo Integer.maxUnsigned64 (Text.trim value.toList) with
      | .ok n => .ok (some n)
      | .error _ => .error (.notNumber name value)

/-- The variable of a setting. -/
def variableOf (setting : String) : String :=
  "LOOM_SERVER_SYMBOLICATION_" ++ setting

/-- The layer that the environment gives. -/
def Layer.ofEnvironment? (environment : Environment) : Except Error Layer := do
  let contextLines ← number? environment (variableOf "CONTEXT_LINES")
  let requestTimeoutSecs ← number? environment (variableOf "REQUEST_TIMEOUT_SECS")
  let maxArtifactBytes ← number? environment (variableOf "MAX_ARTIFACT_BYTES")
  let cacheCapacity ← number? environment (variableOf "CACHE_CAPACITY")
  let cacheTtlSecs ← number? environment (variableOf "CACHE_TTL_SECS")
  return ⟨contextLines, requestTimeoutSecs, maxArtifactBytes, cacheCapacity, cacheTtlSecs⟩

/-! ### TOML -/

/-- The number that an entry gives, if it is there. -/
def entry? (entries : Toml.Entries) (key : String) : Except Toml.Error (Option Nat) :=
  match entries.get? key with
  | none => .ok none
  | some (.integer n) => if 0 ≤ n then .ok (some n.toNat) else .error (.wrongType key)
  | some _ => .error (.wrongType key)

/-- The layer that the entries of a table give. -/
def Layer.ofEntries? (entries : Toml.Entries) : Except Toml.Error Layer := do
  let contextLines ← entry? entries "context_lines"
  let requestTimeoutSecs ← entry? entries "request_timeout_secs"
  let maxArtifactBytes ← entry? entries "max_artifact_bytes"
  let cacheCapacity ← entry? entries "cache_capacity"
  let cacheTtlSecs ← entry? entries "cache_ttl_secs"
  return ⟨contextLines, requestTimeoutSecs, maxArtifactBytes, cacheCapacity, cacheTtlSecs⟩

/-- The name of the table with the settings. -/
def tableName : String := "symbolication"

/-- The layer that an array of numbers gives, in the order of the settings; items after the last
setting do not matter. -/
def Layer.ofItems? : List Toml.Item → Except Toml.Error Layer
  | .integer a :: .integer b :: .integer c :: .integer d :: .integer e :: _ =>
    if 0 ≤ a && 0 ≤ b && 0 ≤ c && 0 ≤ d && 0 ≤ e then
      .ok ⟨some a.toNat, some b.toNat, some c.toNat, some d.toNat, some e.toNat⟩
    else .error (.wrongType tableName)
  | _ => .error (.wrongType tableName)

/-- The layer that a document gives.  A date in the place of the table sets nothing. -/
def Layer.ofDocument? (entries : Toml.Entries) : Except Toml.Error Layer :=
  match entries.get? tableName with
  | none => .ok .empty
  | some (.table _ entries) => ofEntries? entries
  | some (.array items) => ofItems? items
  | some (.moment _) => .ok .empty
  | some _ => .error (.wrongType tableName)

/-- The layer that a file gives; a file that is not there sets nothing. -/
def Layer.ofFile? (disk : Disk) (path : String) : Except Error Layer :=
  if disk.has path then
    match disk.readText? path with
    | .error e => .error (.unreadable path e)
    | .ok text =>
      match Toml.parse? text >>= Layer.ofDocument? with
      | .error e => .error (.badFile path e)
      | .ok layer => .ok layer
  else .ok .empty

/-! ### Sources -/

/-- Where a layer comes from. -/
inductive Source
  | defaults
  | file (path : String)
  | environment
deriving Repr, DecidableEq

/-- The name of a source. -/
def Source.name : Source → String
  | .defaults => "defaults"
  | .file _ => "toml-config"
  | .environment => "environment"

/-- How much a source counts against others. -/
def Source.precedence : Source → Nat
  | .defaults => 10
  | .file _ => 20
  | .environment => 50

/-- The layer of a source. -/
def Source.load (disk : Disk) (environment : Environment) : Source → Except Error Layer
  | .defaults => .ok .empty
  | .file path => Layer.ofFile? disk path
  | .environment => Layer.ofEnvironment? environment

/-- The layers of sources merged onto one, up to the first that cannot be loaded. -/
def mergeSources (disk : Disk) (environment : Environment) :
    List Source → Layer → Except Error Layer
  | [], layer => .ok layer
  | source :: rest, layer =>
    match source.load disk environment with
    | .error e => .error e
    | .ok later => mergeSources disk environment rest (layer.merge later)

/-- Sources in the order of their precedence. -/
def inOrder (sources : List Source) : List Source :=
  sources.mergeSort fun s t => s.precedence ≤ t.precedence

/-- The settings of several sources. -/
def ofSources? (disk : Disk) (environment : Environment) (sources : List Source) :
    Except Error Settings :=
  match mergeSources disk environment (inOrder sources) .empty with
  | .error e => .error e
  | .ok layer => check layer.settings

/-- The settings of the environment and of a file, if there is one. -/
def load? (disk : Disk) (environment : Environment) (file : Option String) :
    Except Error Settings :=
  match file with
  | some path => ofSources? disk environment [.defaults, .file path, .environment]
  | none => ofSources? disk environment [.defaults, .environment]

end Settings

end Retrace
