import Retrace.Text.Composition
import Retrace.Text.Cursive
import Retrace.Text.Direction
import Retrace.Text.Invisible
import Retrace.Text.LowerCase
import Retrace.Text.Plain
import Retrace.Text.Search
/-!
# Labels of domain names

Which labels a domain name may have beside those in ASCII.  A label is in lower case and composed,
has letters, digits and signs alone, starts with no mark, and has joiners only where they show.  In
a name with letters that are written from right to left, no label may be read in two ways.
-/

namespace Retrace

namespace Url

namespace Label

/-! ### Characters -/

/-- Ranges of printable characters that are no part of a label. -/
def refusedRanges : List (Nat × Nat) :=
  [(0x2024, 0x2026), (0x2488, 0x249B), (0x2FF0, 0x2FFF), (0x31EF, 0x31EF), (0x33C2, 0x33C2),
    (0x33C7, 0x33C7), (0x33D8, 0x33D8), (0xFE12, 0xFE12), (0xFE19, 0xFE19), (0xFE30, 0xFE30),
    (0xFE52, 0xFE52), (0xFFFC, 0xFFFD), (0x1F100, 0x1F100)]

/-- Ranges of characters that a name is the same without. -/
def ignoredRanges : List (Nat × Nat) :=
  [(0xAD, 0xAD), (0x34F, 0x34F), (0x115F, 0x1160), (0x17B4, 0x17B5), (0x180B, 0x180F),
    (0x200B, 0x200B), (0x2060, 0x2064), (0x206A, 0x206F), (0x3164, 0x3164), (0xFE00, 0xFE0F),
    (0xFEFF, 0xFEFF), (0xFFA0, 0xFFA0), (0x1BCA0, 0x1BCA3), (0x1D173, 0x1D17A),
    (0xE0100, 0xE01EF)]

/-- The full stops, which separate labels. -/
def fullStops : List Char := ['.', '\u3002', '\uFF0E', '\uFF61']

/-- The character that joins letters which would stand apart. -/
def joiner : Char := '\u200D'

/-- What a character of a name becomes before the name is split into labels: the plain characters
that it stands for, in lower case. -/
def fold (c : Char) : List Char :=
  if fullStops.contains c then ['.']
  else if Text.inRanges [ignoredRanges] c.toNat then []
  else (Text.plain c).flatMap Text.lowerCase

/-- Whether a character may stand in a label as it is. -/
def isAllowed (c : Char) : Bool :=
  c.toNat < 0x80 || c = joiner || c = Text.nonJoiner ||
    (fold c = [c] && !Text.inRanges [refusedRanges] c.toNat &&
      !Text.inRanges Text.unprintableRanges c.toNat)

/-! ### Joiners -/

/-- The class of viramas, the marks that take the vowel from a letter. -/
def viramaClass : Nat := 9

/-- Whether the characters before a place, the last one first, end in a virama. -/
def afterVirama : List Char → Bool
  | [] => false
  | last :: _ => Text.combiningClass last.toNat = viramaClass

/-- Whether letters would join across a place but for what stands there. -/
def wouldJoin (before after : List Char) : Bool :=
  ((before.dropWhile Text.isNonspacing).head?.map Text.joinsAfter).getD false &&
    ((after.dropWhile Text.isNonspacing).head?.map Text.joinsBefore).getD false

/-- Whether all joiners of a label show, where `before` has what comes before, the last character
first. -/
def joinersShow (before : List Char) : List Char → Bool
  | [] => true
  | c :: after =>
    (if c = Text.nonJoiner then afterVirama before || wouldJoin before after
      else if c = joiner then afterVirama before
      else true) && joinersShow (c :: before) after

/-! ### Direction -/

/-- Whether a label has a character that is written from right to left. -/
def hasRightToLeft (label : List Char) : Bool :=
  label.any fun c => Text.direction c = .right || Text.direction c = .rightDigit

/-- Whether a label of a name with letters from right to left can be read in one way only: it runs
in one direction, and its first character and its last one, marks apart, show which. -/
def runsOneWay (label : List Char) : Bool :=
  let directions := label.map Text.direction
  let last := (directions.reverse.dropWhile (· = .mark)).head?
  match directions with
  | [] => true
  | .left :: _ =>
    directions.all (fun d => d ≠ .right && d ≠ .rightDigit) &&
      (last = some .left || last = some .digit)
  | .right :: _ =>
    directions.all (· ≠ .left) &&
      (last = some .right || last = some .digit || last = some .rightDigit) &&
      !(directions.contains .digit && directions.contains .rightDigit)
  | _ => false

/-! ### Labels -/

/-- The mark of a label in its ASCII form. -/
def asciiMark : List Char := "xn--".toList

/-- Whether a label that is not ASCII is well formed. -/
def isWellFormed (label : List Char) : Bool :=
  label.all isAllowed && Text.compose label = label &&
    !((label.head?.map Text.isMark).getD false) && joinersShow [] label &&
    (Text.after? asciiMark label).isNone

end Label

end Url

end Retrace
