import Retrace.CommandLine.Run
/-!
# The program

Reads what a run asks for and writes what it gives.  Which files a run needs shows only while frames
are traced, so a run is repeated with the files that the last one opened until it opens no others.
-/

namespace Retrace

namespace Program

/-- What is known of files so far. -/
abbrev Known := Dictionary (Except Disk.Error Disk.Node)

/-- The disk as far as it is known. -/
def knownDisk (known : Known) : Disk :=
  ⟨fun path => (known.get? path).getD (.error .missing)⟩

/-- Why a file cannot be read. -/
def reason : IO.Error → Disk.Error
  | .inappropriateType .. => .notDirectory
  | .invalidArgument .. => .nulInPath
  | _ => .missing

/-- Reads a file. -/
def readNode (path : String) : IO (Except Disk.Error Disk.Node) := do
  try
    let data ← IO.FS.readBinFile path
    return .ok (.file data.data.toList)
  catch e => return .error (reason e)

/-- Reads the files that are not known yet. -/
def learn (known : Known) (paths : List String) : IO Known :=
  paths.foldlM
    (fun known path => do
      if known.has path then return known else return known.put path (← readNode path))
    known

/-- Reads a stream to its end. -/
partial def readAll (stream : IO.FS.Stream) (read : Bytes) : IO Bytes := do
  let chunk ← stream.read 65536
  if chunk.isEmpty then return read else readAll stream (read ++ chunk.data.toList)

/-- Repeats a run until it opens no file that is not known. -/
partial def repeatRun (around : Disk → CommandLine.Surroundings) (arguments : List String)
    (known : Known) : IO CommandLine.Outcome := do
  let outcome := CommandLine.run (around (knownDisk known)) arguments
  if outcome.opened.all known.has then return outcome
  else repeatRun around arguments (← learn known outcome.opened)

/-- The variables of the environment that matter. -/
def readEnvironment : IO Settings.Environment := do
  let values ← CommandLine.variableNames.mapM fun name => do
    return (← IO.getEnv name).map fun value => (name, value)
  return values.filterMap id

/-- What is written when help is asked for. -/
def help : String :=
  "Usage: retrace [OPTIONS] [INPUT]\n\n" ++
  "  [INPUT]                JSON list of stack frames, - for the standard input\n" ++
  "  --project-id <ID>      project of the artifacts\n" ++
  "  --version <VERSION>    release of the artifacts\n" ++
  "  --config <FILE>        TOML file with settings\n" ++
  "  --context-lines <N>    lines around each line that is shown\n" ++
  "  --pretty               lay the output out in lines\n" ++
  "  --json-logs            write logs as JSON\n" ++
  "  -h, --help             show this text\n"

/-- Writes the outcome of a run and gives its status. -/
def finish (outcome : CommandLine.Outcome) : IO UInt32 := do
  (← IO.getStdout).putStr outcome.output
  match outcome.result with
  | .ok _ => pure ()
  | .error (.usage .help) => (← IO.getStdout).putStr help
  | .error e => (← IO.getStderr).putStr ("Error: " ++ e.message ++ "\n")
  return UInt32.ofNat outcome.exitCode

/-- Runs the program. -/
def start (arguments : List String) : IO UInt32 := do
  let environment ← readEnvironment
  match Arguments.parse? environment arguments with
  | .error e => finish ⟨.error (.usage e), []⟩
  | .ok a =>
    let known ← learn [] (CommandLine.firstFiles a)
    let standardInput ←
      if (CommandLine.inputFile? a).isSome then pure [] else readAll (← IO.getStdin) []
    let around (disk : Disk) : CommandLine.Surroundings :=
      ⟨disk, environment, .down, standardInput⟩
    finish (← repeatRun around arguments known)

end Program

end Retrace

/-- The program. -/
def main (arguments : List String) : IO UInt32 :=
  Retrace.Program.start arguments
