/-!
# Ranges of code points

A property of characters is given by the ranges of the code points that have it, in ascending order
and in lists of moderate length.
-/

namespace Retrace

namespace Text

/-- Whether a code point is in one of the ranges. -/
def inRanges (tables : List (List (Nat × Nat))) (code : Nat) : Bool :=
  tables.any fun table => table.any fun r => r.1 ≤ code && code ≤ r.2

end Text

end Retrace
