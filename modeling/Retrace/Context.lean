import Retrace.Text.Lines
/-!
# Source context

The line that a frame came from, with some of the lines around it.  Lines keep their ends, so that
the blocks of an excerpt are parts of the source as they stand there.
-/

namespace Retrace

/-- A line of a source and the lines before and after it. -/
structure Excerpt where
  line : String
  before : String
  after : String
deriving Repr, DecidableEq

namespace Excerpt

/-- The excerpt around a line that the source does not have. -/
def empty : Excerpt := ⟨"", "", ""⟩

/-- Whether an excerpt has no text at all. -/
def isEmpty (e : Excerpt) : Bool :=
  e.line.isEmpty && e.before.isEmpty && e.after.isEmpty

/-- The lines around one when the number of lines is not given. -/
def defaultWindow : Nat := 5

/-- The excerpt around line `number`, from one, with up to `window` lines on either side. -/
def around (source : String) (number window : Nat) : Excerpt :=
  let pieces := Text.pieces source.toList
  match if number = 0 then none else pieces[number - 1]? with
  | none => empty
  | some line =>
    let before := (pieces.take (number - 1)).drop (number - 1 - window)
    let after := (pieces.drop number).take window
    ⟨String.ofList line, String.ofList before.flatten, String.ofList after.flatten⟩

/-- The first number that does not have 64 bits. -/
def numberEnd : Nat := 0x10000000000000000

/-- Whether the source has the line and the number of the first line behind its window is too large.
A program ends there; `around` goes on as if there were no largest number. -/
def windowOverruns (source : String) (number window : Nat) : Bool :=
  number ≠ 0 && number ≤ (Text.pieces source.toList).length && numberEnd ≤ number + window

end Excerpt

end Retrace
