import Retrace.SourceMap.Vlq
import Retrace.Text.Lines
import Retrace.Text.Quoted
import Retrace.Text.Search
/-!
# Mappings

A mapping segment ties a place in a generated file to a place in one of its sources.  The text of a
map gives the segments line by line: lines are separated by semicolons, the segments of a line by
commas, and a segment has one, four or five numbers.  Each number is the difference to the one
before it, within the line for the generated column and within the whole text for the others.

`Mappings.decode?` reads such a text and orders the segments of each line by column, segments of
one column staying in the order in which they were written; `Mappings.encode` writes one.
-/

namespace Retrace

/-- A place in a source: the index of the source, the line and the column, all from zero. -/
structure Origin where
  source : Nat
  line : Nat
  column : Nat
deriving Repr, DecidableEq

/-- A place in the generated file, from zero, with the place that it came from, if any, and the
index of the name that it had there. -/
structure Segment where
  line : Nat
  column : Nat
  origin : Option Origin
  name : Option Nat
deriving Repr, DecidableEq

/-- Whether a segment starts at or before a place in the generated file. -/
def Segment.startsBy (s : Segment) (line column : Nat) : Bool :=
  s.line < line || (s.line = line && s.column ≤ column)

/-- The segments of a map. -/
structure Mappings where
  segments : List Segment
deriving Repr, DecidableEq

namespace Mappings

/-- What a number of a segment stands for. -/
inductive Quantity
  | sourceIndex
  | sourceLine
  | sourceColumn
  | nameIndex
  | generatedColumn
deriving Repr, DecidableEq

/-- The wording of a quantity. -/
def Quantity.label : Quantity → String
  | .sourceIndex => "source index"
  | .sourceLine => "original line"
  | .sourceColumn => "original column"
  | .nameIndex => "name index"
  | .generatedColumn => "generated column"

/-- Why a text is not the text of any mappings. -/
inductive Error
  /-- A byte of a segment that is no digit. -/
  | badDigit (byte : UInt8)
  | truncated (segment : String)
  | overflow (segment : String)
  | fieldCount (segment : String) (line fields : Nat)
  | outOfRange (quantity : Quantity) (segment : String) (line : Nat)
deriving Repr, DecidableEq

/-- The wording of an error.  A byte that is no digit is shown as the character of its value. -/
def Error.message : Error → String
  | .badDigit byte => "invalid VLQ character: " ++ quotedSingle (Char.ofNat byte.toNat)
  | .truncated segment => "truncated VLQ value in segment " ++ quoted segment
  | .overflow segment => "VLQ value overflows in segment " ++ quoted segment
  | .fieldCount segment line fields =>
    "invalid segment " ++ quoted segment ++ s!" on generated line {line}: {fields} fields"
  | .outOfRange quantity segment line =>
    s!"out-of-range {quantity.label} in segment " ++ quoted segment ++ s!" on generated line {line}"

/-- The error of a segment whose numbers cannot be read. -/
def Error.ofVlq (segment : List Char) : Vlq.Error → Error
  | .badDigit byte => .badDigit byte
  | .truncated => .truncated (String.ofList segment)
  | .overflow => .overflow (String.ofList segment)

/-- The numbers of a segment. -/
def numbers? (segment : List Char) : Except Error (List Int) :=
  match Vlq.decode? (Utf8.encode segment) with
  | .ok values => .ok values
  | .error e => .error (Error.ofVlq segment e)

/-- The sums of the numbers that run through the whole text. -/
structure Sums where
  source : Int
  line : Int
  column : Int
  name : Int
deriving Repr, DecidableEq

/-- The sums before the first segment. -/
def Sums.start : Sums := ⟨0, 0, 0, 0⟩

/-- A sum as an index or a place, which has thirty-two bits. -/
def place? (quantity : Quantity) (segment : List Char) (line : Nat) (value : Int) :
    Except Error Nat :=
  if 0 ≤ value && value < 0x100000000 then .ok value.toNat
  else .error (.outOfRange quantity (String.ofList segment) line)

/-- The place in a source that sums stand for. -/
def origin? (segment : List Char) (line : Nat) (sums : Sums) : Except Error Origin := do
  let source ← place? .sourceIndex segment line sums.source
  let sourceLine ← place? .sourceLine segment line sums.line
  let sourceColumn ← place? .sourceColumn segment line sums.column
  return ⟨source, sourceLine, sourceColumn⟩

/-- Reads a segment of a generated line, where `column` and `sums` are those of the segments before
it.  The place in the source is checked first, then the name, then the generated column. -/
def segment? (line : Nat) (column : Int) (sums : Sums) (text : List Char) :
    Except Error (Segment × Int × Sums) := do
  match ← numbers? text with
  | [c] =>
    let place ← place? .generatedColumn text line (column + c)
    return (⟨line, place, none, none⟩, column + c, sums)
  | [c, s, l, k] =>
    let sums := { sums with
      source := sums.source + s, line := sums.line + l, column := sums.column + k }
    let origin ← origin? text line sums
    let place ← place? .generatedColumn text line (column + c)
    return (⟨line, place, some origin, none⟩, column + c, sums)
  | [c, s, l, k, n] =>
    let sums : Sums := ⟨sums.source + s, sums.line + l, sums.column + k, sums.name + n⟩
    let origin ← origin? text line sums
    let name ← place? .nameIndex text line sums.name
    let place ← place? .generatedColumn text line (column + c)
    return (⟨line, place, some origin, some name⟩, column + c, sums)
  | values => .error (.fieldCount (String.ofList text) line values.length)

/-- Reads the segments of a generated line in the order in which they are written.  Empty texts
between commas are passed over. -/
def line? (line : Nat) : Int → Sums → List (List Char) → Except Error (List Segment × Sums)
  | _, sums, [] => .ok ([], sums)
  | column, sums, text :: rest =>
    if text.isEmpty then line? line column sums rest
    else
      match segment? line column sums text with
      | .error e => .error e
      | .ok (segment, column, sums) =>
        match line? line column sums rest with
        | .error e => .error e
        | .ok (segments, sums) => .ok (segment :: segments, sums)

/-- How many generated lines can be told apart, since their numbers have thirty-two bits. -/
def lineLimit : Nat := 0x100000000

/-- Reads generated lines, of which the first one has the given number, and keeps the segments of
each in the order in which they are written. -/
def lines? (number : Nat) : Sums → List (List Char) → Except Error (List (List Segment))
  | _, [] => .ok []
  | sums, text :: rest =>
    match line? (number % lineLimit) 0 sums (Text.splitOn ',' text) with
    | .error e => .error e
    | .ok (segments, sums) =>
      match lines? (number + 1) sums rest with
      | .error e => .error e
      | .ok lines => .ok (segments :: lines)

/-- Whether a segment comes right behind one with a greater column. -/
def isOutOfOrder : List Segment → Bool
  | s :: t :: rest => t.column < s.column || isOutOfOrder (t :: rest)
  | _ => false

/-- Segments in the order of their columns; those of one column keep their order.  Segments that
are in order are left as they are. -/
def sortLine (segments : List Segment) : List Segment :=
  if isOutOfOrder segments then segments.mergeSort fun s t => s.column ≤ t.column else segments

/-- The mappings that a text writes. -/
def decode? (text : List Char) : Except Error Mappings :=
  match lines? 0 Sums.start (Text.splitOn ';' text) with
  | .error e => .error e
  | .ok lines => .ok ⟨(lines.map sortLine).flatten⟩

/-- The last segment that starts at or before a place. -/
def find? (m : Mappings) (line column : Nat) : Option Segment :=
  (m.segments.takeWhile fun s => s.startsBy line column).getLast?

/-- The segments of a generated line. -/
def onLine (m : Mappings) (line : Nat) : List Segment :=
  (m.segments.dropWhile fun s => s.line < line).takeWhile fun s => s.line ≤ line

/-- The numbers of a segment and the sums after it. -/
def differences (column : Nat) (sums : Sums) (s : Segment) : List Int × Sums :=
  let first : Int := (s.column : Int) - column
  match s.origin with
  | none => ([first], sums)
  | some origin =>
    let place : List Int :=
      [origin.source - sums.source, origin.line - sums.line, origin.column - sums.column]
    match s.name with
    | none => (first :: place, ⟨origin.source, origin.line, origin.column, sums.name⟩)
    | some name =>
      (first :: place ++ [(name : Int) - sums.name],
        ⟨origin.source, origin.line, origin.column, name⟩)

/-- The text of segments after a place in the text: its generated line, whether a segment stands on
that line already, its column and the sums. -/
def encodeFrom (line : Nat) (started : Bool) (column : Nat) (sums : Sums) :
    List Segment → List Char
  | [] => []
  | s :: rest =>
    let below := s.line - line
    let between :=
      if 0 < below then List.replicate below ';' else if started then [','] else []
    let (numbers, after) := differences (if 0 < below then 0 else column) sums s
    between ++ (Vlq.encode numbers).map (fun b => Char.ofNat b.toNat) ++
      encodeFrom s.line true s.column after rest

/-- The text of segments that stand in the order of their lines. -/
def encode (segments : List Segment) : List Char :=
  encodeFrom 0 false 0 Sums.start segments

end Mappings

end Retrace
