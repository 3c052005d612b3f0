import Retrace.CommandLine.Arguments
import Retrace.FilePath
import Retrace.World
/-!
# The command line

A run reads a stack trace from a file or the standard input, traces it and writes the traced frames
to the standard output.  It writes either all of them or nothing: whatever goes wrong before the
frames are traced ends the run, while a frame that cannot be traced does not.
-/

namespace Retrace

namespace CommandLine

/-- The variables that a run looks at. -/
def variableNames : List String :=
  ["LOOM_PROJECT_ID", "LOOM_RELEASE_VERSION", "LOOM_SERVER_CONFIG"] ++
    ["CONTEXT_LINES", "REQUEST_TIMEOUT_SECS", "MAX_ARTIFACT_BYTES", "CACHE_CAPACITY",
      "CACHE_TTL_SECS"].map Settings.variableOf

/-- What a run finds around it. -/
structure Surroundings where
  disk : Disk
  environment : Settings.Environment
  network : Network
  standardInput : Bytes

/-- Why a run ends without output. -/
inductive Error
  | usage (e : Arguments.Error)
  | settings (file : Option String) (e : Settings.Error)
  | input (file : Option String)
  | badTrace (e : Json.Error)
  | trace (e : Tracer.Error)
deriving Repr, DecidableEq

/-- The first line that is said of an error. -/
def Error.message : Error → String
  | .usage e => e.message
  | .settings (some file) _ => "loading config from " ++ file
  | .settings none _ => "loading config from environment"
  | .input (some file) => "reading stack trace from " ++ file
  | .input none => "reading stack trace from stdin"
  | .badTrace _ => "parsing stack trace JSON"
  | .trace e => e.message

/-- The status with which a run ends after an error. -/
def Error.exitCode : Error → Nat
  | .usage .help => 0
  | .usage _ => 2
  | .trace .overflow => 101
  | _ => 1

/-- The file with the stack trace, if it is not the standard input. -/
def inputFile? (a : Arguments) : Option String :=
  a.input.filter fun path => FilePath.components path.toList ≠ [['-']]

/-- The text of the stack trace. -/
def readInput (around : Surroundings) (file : Option String) : Except Error Bytes :=
  match file with
  | some path =>
    match around.disk.readText? path with
    | .ok text => .ok (Utf8.encode text)
    | .error _ => .error (.input file)
  | none =>
    match Utf8.decode? around.standardInput with
    | .ok _ => .ok around.standardInput
    | .error _ => .error (.input none)

/-- What a run gives, as far as it got, and the files that were opened for it on the way. -/
structure Outcome where
  result : Except Error String
  opened : List String

/-- The status with which a run ends. -/
def Outcome.exitCode (outcome : Outcome) : Nat :=
  match outcome.result with
  | .ok _ => 0
  | .error e => e.exitCode

/-- What a run writes to the standard output, where help is not asked for. -/
def Outcome.output (outcome : Outcome) : String :=
  match outcome.result with
  | .ok text => text
  | .error _ => ""

/-- The text of traced frames. -/
def outputText (a : Arguments) (frames : List TracedFrame) : String :=
  let layout : Json.Layout := if a.pretty then .indented else .compact
  String.ofList (layout.objects (frames.map TracedFrame.members)) ++ "\n"

/-- The stack trace of a run and the settings that it is traced with. -/
def prepare (around : Surroundings) (arguments : List String) :
    Except Error (Arguments × Settings × Option (List StackFrame)) :=
  match Arguments.parse? around.environment arguments with
  | .error e => .error (.usage e)
  | .ok a =>
    match a.settings? around.disk around.environment with
    | .error e => .error (.settings a.config e)
    | .ok settings =>
      match readInput around (inputFile? a) with
      | .error e => .error e
      | .ok text =>
        match StackFrame.readTrace text with
        | .error e => .error (.badTrace e)
        | .ok stack => .ok (a, settings, stack)

/-- The files that a run opens before it traces anything. -/
def firstFiles (a : Arguments) : List String :=
  a.config.toList ++ (inputFile? a).toList

/-- A run with the given arguments. -/
def run (around : Surroundings) (arguments : List String) : Outcome :=
  match prepare around arguments with
  | .error e => ⟨.error e, []⟩
  | .ok (a, settings, stack) =>
    let world := World.make around.disk around.network
    let (result, world) := world.trace settings a.release stack (.shared false false)
    match result with
    | .error e => ⟨.error (.trace e), world.opened⟩
    | .ok frames => ⟨.ok (outputText a frames), world.opened⟩

end CommandLine

end Retrace
