import Retrace.Decimal.Shortest
import Retrace.Text.Quoted
import Retrace.Text.Utf8
/-!
# Errors of JSON texts

Why a text is not the JSON that was asked for, and where.  A `Fault` counts the bytes that were not
yet read when it was found; an `Error` gives the line and the column instead.
-/

namespace Retrace

namespace Json

/-- What was found in place of a value of another kind. -/
inductive Found
  | null
  | boolean (b : Bool)
  | integer (n : Int)
  /-- A number that is not whole, by the bits of its double. -/
  | floating (bits : UInt64)
  | string (s : List Char)
  | sequence
  | map
deriving Repr, DecidableEq

/-- Why a text is not the JSON that was asked for. -/
inductive Cause
  | eofInList
  | eofInObject
  | eofInString
  | eofInValue
  | expectedColon
  | expectedListCommaOrEnd
  | expectedObjectCommaOrEnd
  /-- A word other than `null`, `true` and `false`. -/
  | expectedWord
  | expectedValue
  | invalidEscape
  | invalidNumber
  | numberOutOfRange
  /-- A string whose bytes are no text. -/
  | invalidCodePoint
  | controlCharacter
  | keyNotString
  | loneSurrogate
  | unpairedSurrogate
  | trailingComma
  | trailingCharacters
  | invalidType (found : Found) (expected : String)
  | invalidValue (n : Int) (expected : String)
  | invalidLength (length : Nat) (expected : String)
  | missingField (name : String)
  | duplicateField (name : String)
deriving Repr, DecidableEq

/-- The wording of what was found. -/
def Found.message : Found → String
  | .null => "null"
  | .boolean b => s!"boolean `{b}`"
  | .integer n => s!"integer `{n}`"
  | .floating bits => "floating point `" ++ String.ofList (Shortest.messageStyle.text bits) ++ "`"
  | .string s => "string " ++ String.ofList (Text.quoted s)
  | .sequence => "sequence"
  | .map => "map"

/-- The wording of a cause. -/
def Cause.message : Cause → String
  | .eofInList => "EOF while parsing a list"
  | .eofInObject => "EOF while parsing an object"
  | .eofInString => "EOF while parsing a string"
  | .eofInValue => "EOF while parsing a value"
  | .expectedColon => "expected `:`"
  | .expectedListCommaOrEnd => "expected `,` or `]`"
  | .expectedObjectCommaOrEnd => "expected `,` or `\x7d`"
  | .expectedWord => "expected ident"
  | .expectedValue => "expected value"
  | .invalidEscape => "invalid escape"
  | .invalidNumber => "invalid number"
  | .numberOutOfRange => "number out of range"
  | .invalidCodePoint => "invalid unicode code point"
  | .controlCharacter => "control character (\\u0000-\\u001F) found while parsing a string"
  | .keyNotString => "key must be a string"
  | .loneSurrogate => "lone leading surrogate in hex escape"
  | .unpairedSurrogate => "unexpected end of hex escape"
  | .trailingComma => "trailing comma"
  | .trailingCharacters => "trailing characters"
  | .invalidType found expected => "invalid type: " ++ found.message ++ ", expected " ++ expected
  | .invalidValue n expected => s!"invalid value: integer `{n}`, expected {expected}"
  | .invalidLength length expected => s!"invalid length {length}, expected {expected}"
  | .missingField name => s!"missing field `{name}`"
  | .duplicateField name => s!"duplicate field `{name}`"

/-- A cause and the number of bytes that were not yet read when it was found. -/
structure Fault where
  cause : Cause
  left : Nat
deriving Repr, DecidableEq

/-- A fault found where reading stands, with `rest` still to be read. -/
def Fault.here (cause : Cause) (rest : Bytes) : Fault :=
  ⟨cause, rest.length⟩

/-- A fault in the next byte of `rest`, or at the end of the text. -/
def Fault.ahead (cause : Cause) (rest : Bytes) : Fault :=
  ⟨cause, rest.length - 1⟩

/-- A cause with the place where it was found: the line, from one, and the bytes of that line up to
there. -/
structure Error where
  cause : Cause
  line : Nat
  column : Nat
deriving Repr, DecidableEq

/-- The wording of an error. -/
def Error.message (e : Error) : String :=
  e.cause.message ++ s!" at line {e.line} column {e.column}"

/-- The line and the column that come after some bytes. -/
def position (read : Bytes) : Nat × Nat :=
  (1 + read.count 0x0A, (read.reverse.takeWhile (· ≠ 0x0A)).length)

/-- A fault with its place in the text. -/
def Fault.inText (f : Fault) (text : Bytes) : Error :=
  let place := position (text.take (text.length - f.left))
  ⟨f.cause, place.1, place.2⟩

end Json

end Retrace
