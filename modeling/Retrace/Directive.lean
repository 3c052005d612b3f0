import Retrace.Text.Blank
import Retrace.Text.Lines
import Retrace.Text.Search
/-!
# Source map directives

A generated file names its source map in a comment at the end of a line, either a line comment or a
block comment that ends the line.  The last line with such a comment decides.
-/

namespace Retrace

namespace Directive

/-- The word that a directive gives a value to. -/
def key : List Char := "sourceMappingURL=".toList

/-- The marks that start a directive in a line comment. -/
def lineMarks : List (List Char) :=
  ["//# ".toList ++ key, "//@ ".toList ++ key]

/-- The marks that start a directive in a block comment. -/
def blockMarks : List (List Char) :=
  ["/*# ".toList ++ key, "/*@ ".toList ++ key]

/-- The end of a block comment. -/
def blockEnd : List Char := "*/".toList

/-- Whether a character may not stand in a value: a blank, or a quote of any kind. -/
def isForbidden (c : Char) : Bool :=
  Text.isBlank c || c = '\x22' || c = '\x27' || c = '\x60'

/-- The value that a text is, without the blanks around it. -/
def value? (text : List Char) : Option (List Char) :=
  let value := Text.trim text
  if value.isEmpty || value.any isForbidden then none else some value

/-- The value in the text after the mark of a block comment, which has to end there. -/
def blockValue? (text : List Char) : Option (List Char) :=
  match Text.splitFirst? blockEnd text with
  | none => none
  | some (value, trailing) => if (Text.trim trailing).isEmpty then value? value else none

/-- The value that a line gives.  Of several marks on the line the first kind that stands on it
decides, by its last mark. -/
def onLine? (line : List Char) : Option (List Char) :=
  let line := Text.trimEnd line
  match lineMarks.findSome? fun mark => Text.afterLast? mark line with
  | some rest => value? rest
  | none =>
    match blockMarks.findSome? fun mark => Text.afterLast? mark line with
    | some rest => blockValue? rest
    | none => none

/-- The value of the last directive of a file. -/
def find? (source : List Char) : Option (List Char) :=
  (Text.lines source).reverse.findSome? onLine?

end Directive

end Retrace
