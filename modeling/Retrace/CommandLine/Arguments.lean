import Retrace.Artifact
import Retrace.Settings.Source
/-!
# Arguments

The arguments of the command line.  They are read one after the other; an option waits for its value
until the next argument that is one, and what was read of it is taken in when the next option, flag
or file name comes, or at the end.  Options that are not given may still have a value in the
environment.
-/

namespace Retrace

/-- What the command line asks for. -/
structure Arguments where
  /-- The file with the stack trace; without one, or for `-`, it is the standard input. -/
  input : Option String
  project : ProjectId
  version : Option String
  /-- The file with the settings. -/
  config : Option String
  contextLines : Option Nat
  /-- Whether the output is laid out in lines. -/
  pretty : Bool
  jsonLogs : Bool
deriving Repr, DecidableEq

namespace Arguments

/-- What takes a value. -/
inductive Field
  | input
  | projectId
  | version
  | config
  | contextLines
deriving Repr, DecidableEq

/-- What takes none. -/
inductive Flag
  | pretty
  | jsonLogs
  | help
deriving Repr, DecidableEq

/-- How a field is written in messages. -/
def Field.label : Field → String
  | .input => "[INPUT]"
  | .projectId => "--project-id"
  | .version => "--version"
  | .config => "--config"
  | .contextLines => "--context-lines"

/-- How a flag is written. -/
def Flag.label : Flag → String
  | .pretty => "--pretty"
  | .jsonLogs => "--json-logs"
  | .help => "--help"

/-- Why arguments are not accepted. -/
inductive Error
  | unknown (argument : String)
  | missingValue (field : Field)
  /-- An empty name of a file. -/
  | emptyValue (field : Field)
  | badValue (field : Field) (value : String)
  | unexpectedValue (flag : Flag)
  | repeated (label : String)
  /-- No error, but a request for help. -/
  | help
deriving Repr, DecidableEq

/-- The wording of an error. -/
def Error.message : Error → String
  | .unknown argument => "unexpected argument '" ++ argument ++ "' found"
  | .missingValue field => "a value is required for '" ++ field.label ++ "' but none was supplied"
  | .emptyValue field => "a value is required for '" ++ field.label ++ "' but none was supplied"
  | .badValue field value => "invalid value '" ++ value ++ "' for '" ++ field.label ++ "'"
  | .unexpectedValue flag => "unexpected value for '" ++ flag.label ++ "' found"
  | .repeated label => "the argument '" ++ label ++ "' cannot be used multiple times"
  | .help => "help was asked for"

/-! ### Values -/

/-- The most lines of an excerpt that can be asked for. -/
def maxContextLines : Nat := 50

/-- What was read so far. -/
structure Progress where
  input : Option String
  projectId : Option Int
  version : Option String
  config : Option String
  contextLines : Option Nat
  pretty : Bool
  jsonLogs : Bool
  /-- A field whose value is not taken in yet, or not even read. -/
  pending : Option (Field × Option String)
  /-- Whether there was a file name. -/
  hasInput : Bool
deriving Repr, DecidableEq

/-- Nothing was read yet. -/
def Progress.start : Progress := ⟨none, none, none, none, none, false, false, none, false⟩

/-- Whether a field has its value. -/
def Progress.isSet (p : Progress) : Field → Bool
  | .input => p.input.isSome
  | .projectId => p.projectId.isSome
  | .version => p.version.isSome
  | .config => p.config.isSome
  | .contextLines => p.contextLines.isSome

/-- Gives a field the value that a text writes. -/
def Progress.set (p : Progress) (field : Field) (text : String) : Except Error Progress :=
  match field with
  | .input => if text.isEmpty then .error (.emptyValue field) else .ok { p with input := some text }
  | .config =>
    if text.isEmpty then .error (.emptyValue field) else .ok { p with config := some text }
  | .version => .ok { p with version := some text }
  | .projectId =>
    match Integer.read Integer.minSigned64 Integer.maxSigned64 text.toList with
    | .ok n => .ok { p with projectId := some n }
    | .error _ => .error (.badValue field text)
  | .contextLines =>
    match Integer.readUpTo Integer.maxUnsigned64 text.toList with
    | .ok n =>
      if n ≤ maxContextLines then .ok { p with contextLines := some n }
      else .error (.badValue field text)
    | .error _ => .error (.badValue field text)

/-- Gives a field its value; it may have only one. -/
def Progress.takeIn (p : Progress) (field : Field) (text : String) : Except Error Progress :=
  if p.isSet field then .error (.repeated field.label) else p.set field text

/-- Takes in the value of the pending field. -/
def Progress.settle (p : Progress) : Except Error Progress :=
  match p.pending with
  | none => .ok p
  | some (field, none) => .error (.missingValue field)
  | some (field, some text) => { p with pending := none }.takeIn field text

/-- Raises a flag. -/
def Progress.raise (p : Progress) (flag : Flag) : Except Error Progress :=
  match flag with
  | .help => .error .help
  | .pretty =>
    if p.pretty then .error (.repeated flag.label) else .ok { p with pretty := true }
  | .jsonLogs =>
    if p.jsonLogs then .error (.repeated flag.label) else .ok { p with jsonLogs := true }

/-! ### Arguments -/

/-- The option of a name. -/
def option? (name : List Char) : Option Field :=
  [Field.projectId, .version, .config, .contextLines].find? fun field =>
    field.label.toList = '-' :: '-' :: name

/-- The flag of a name. -/
def flag? (name : List Char) : Option Flag :=
  [Flag.pretty, .jsonLogs, .help].find? fun flag => flag.label.toList = '-' :: '-' :: name

/-- Reads an argument that starts with two dashes, from what follows them. -/
def Progress.long (p : Progress) (text : List Char) : Except Error Progress :=
  let name := text.takeWhile (· ≠ '=')
  let value : Option String :=
    if text.contains '=' then some (String.ofList (text.drop (name.length + 1))) else none
  match option? name, flag? name, value with
  | some field, _, some value =>
    match p.settle with
    | .error e => .error e
    | .ok p => p.takeIn field value
  | some field, _, none =>
    match p.settle with
    | .error e => .error e
    | .ok p => .ok { p with pending := some (field, none) }
  | none, some flag, some _ => .error (.unexpectedValue flag)
  | none, some flag, none =>
    match p.settle with
    | .error e => .error e
    | .ok p => p.raise flag
  | none, none, _ => .error (.unknown (String.ofList ('-' :: '-' :: text)))

/-- Reads an argument that starts with one dash, from what follows it. -/
def Progress.short (p : Progress) (text : List Char) : Except Error Progress :=
  match text with
  | 'h' :: _ =>
    match p.settle with
    | .error e => .error e
    | .ok p => p.raise .help
  | _ => .error (.unknown (String.ofList ('-' :: text)))

/-- Reads an argument that is the name of a file. -/
def Progress.positional (p : Progress) (argument : String) : Except Error Progress :=
  if p.hasInput then .error (.unknown argument)
  else
    match p.settle with
    | .error e => .error e
    | .ok p => .ok { p with pending := some (.input, some argument), hasInput := true }

/-- Reads an argument that starts with no dash or is a dash. -/
def Progress.plain (p : Progress) (argument : String) : Except Error Progress :=
  match p.pending with
  | some (field, none) => .ok { p with pending := some (field, some argument) }
  | _ => p.positional argument

/-- Reads an argument that is not `--`. -/
def Progress.argument (p : Progress) (argument : String) : Except Error Progress :=
  match argument.toList with
  | '-' :: '-' :: text => p.long text
  | '-' :: c :: text => p.short (c :: text)
  | _ => p.plain argument

/-- Reads arguments.  Those after `--` are all names of files. -/
def Progress.arguments : Bool → Progress → List String → Except Error Progress
  | _, p, [] => p.settle
  | true, p, argument :: rest =>
    match p.positional argument with
    | .error e => .error e
    | .ok p => arguments true p rest
  | false, p, argument :: rest =>
    if argument = "--" then arguments true p rest
    else
      match p.argument argument with
      | .error e => .error e
      | .ok p => arguments false p rest

/-! ### The environment -/

/-- Gives a field that has no value the one of a variable, if there is one. -/
def Progress.fromVariable (environment : Settings.Environment) (field : Field) (name : String)
    (p : Progress) : Except Error Progress :=
  if p.isSet field then .ok p
  else
    match environment.get? name with
    | none => .ok p
    | some text => p.set field text

/-- The arguments when all is read. -/
def Progress.finish (p : Progress) : Arguments where
  input := p.input
  project := ⟨Int64.ofInt (p.projectId.getD 1)⟩
  version := p.version
  config := p.config
  contextLines := p.contextLines
  pretty := p.pretty
  jsonLogs := p.jsonLogs

/-- What arguments and the environment ask for. -/
def parse? (environment : Settings.Environment) (arguments : List String) :
    Except Error Arguments := do
  let p ← Progress.arguments false .start arguments
  let p ← p.fromVariable environment .projectId "LOOM_PROJECT_ID"
  let p ← p.fromVariable environment .version "LOOM_RELEASE_VERSION"
  let p ← p.fromVariable environment .config "LOOM_SERVER_CONFIG"
  return p.finish

/-- The release that the artifacts belong to. -/
def release (a : Arguments) : Release := ⟨a.project, a.version⟩

/-- The settings that arguments lead to.  The number of lines that they ask for decides over all
others, which still have to be right. -/
def settings? (disk : Disk) (environment : Settings.Environment) (a : Arguments) :
    Except Settings.Error Settings :=
  (Settings.load? disk environment a.config).map fun settings =>
    match a.contextLines with
    | some lines => { settings with contextLines := lines }
    | none => settings

end Arguments

end Retrace
