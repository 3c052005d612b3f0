import Retrace.Context
import Retrace.Disk
import Retrace.Toml.Basic
/-!
# Settings

The settings of a run and the layers that they are put together from.  A layer sets some of them;
of several layers the last one that sets a value decides, and what no layer sets has a default.
The settings are checked only when all layers are in.
-/

namespace Retrace

/-- The settings of a run. -/
structure Settings where
  /-- Lines of a source around the one that is shown. -/
  contextLines : Nat
  requestTimeoutSecs : Nat
  /-- The size of the largest artifact that is fetched. -/
  maxArtifactBytes : Nat
  /-- Entries of each kind that are kept in the cache. -/
  cacheCapacity : Nat
  cacheTtlSecs : Nat
deriving Repr, DecidableEq

namespace Settings

/-- The settings when nothing is set. -/
def default : Settings where
  contextLines := Excerpt.defaultWindow
  requestTimeoutSecs := 30
  maxArtifactBytes := 50 * 1024 * 1024
  cacheCapacity := 256
  cacheTtlSecs := 3600

/-- Some settings. -/
structure Layer where
  contextLines : Option Nat
  requestTimeoutSecs : Option Nat
  maxArtifactBytes : Option Nat
  cacheCapacity : Option Nat
  cacheTtlSecs : Option Nat
deriving Repr, DecidableEq

namespace Layer

/-- The layer that sets nothing. -/
def empty : Layer := ⟨none, none, none, none, none⟩

/-- Two layers, of which the later one decides where both set a value. -/
def merge (earlier later : Layer) : Layer where
  contextLines := later.contextLines.or earlier.contextLines
  requestTimeoutSecs := later.requestTimeoutSecs.or earlier.requestTimeoutSecs
  maxArtifactBytes := later.maxArtifactBytes.or earlier.maxArtifactBytes
  cacheCapacity := later.cacheCapacity.or earlier.cacheCapacity
  cacheTtlSecs := later.cacheTtlSecs.or earlier.cacheTtlSecs

/-- The settings of a layer, with the defaults where it sets nothing. -/
def settings (layer : Layer) : Settings where
  contextLines := layer.contextLines.getD Settings.default.contextLines
  requestTimeoutSecs := layer.requestTimeoutSecs.getD Settings.default.requestTimeoutSecs
  maxArtifactBytes := layer.maxArtifactBytes.getD Settings.default.maxArtifactBytes
  cacheCapacity := layer.cacheCapacity.getD Settings.default.cacheCapacity
  cacheTtlSecs := layer.cacheTtlSecs.getD Settings.default.cacheTtlSecs

end Layer

/-- Why there are no settings. -/
inductive Error
  /-- A variable whose value is no number. -/
  | notNumber (name value : String)
  | badFile (path : String) (e : Toml.Error)
  | unreadable (path : String) (e : Disk.Error)
  | tooManyContextLines (found : Nat)
  | noTimeout
deriving Repr, DecidableEq

/-- The most lines around the one that is shown. -/
def maxContextLines : Nat := 50

/-- The wording of an error. -/
def Error.message : Error → String
  | .notNumber name value =>
    "Invalid value for " ++ name ++ ": invalid numeric value '" ++ value ++ "'"
  | .badFile path e => "Failed to parse TOML config at " ++ path ++ ": " ++ e.message
  | .unreadable path e => "Failed to read config file " ++ path ++ ": " ++ e.message
  | .tooManyContextLines found =>
    s!"Validation error: context_lines must be at most {maxContextLines}, got {found}"
  | .noTimeout => "Validation error: request_timeout_secs must be greater than 0"

/-- Settings that a run can use. -/
def check (settings : Settings) : Except Error Settings :=
  if maxContextLines < settings.contextLines then
    .error (.tooManyContextLines settings.contextLines)
  else if settings.requestTimeoutSecs = 0 then .error .noTimeout
  else .ok settings

end Settings

end Retrace
