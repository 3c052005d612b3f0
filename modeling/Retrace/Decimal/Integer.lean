/-!
# Whole numbers in decimal

Reading of a whole number that has to lie within a range.  A sign may stand in front of the digits,
a minus sign only where the range has negative numbers.  The digits are read from left to right and
the first one that is no digit, or that leads out of the range, decides.
-/

namespace Retrace

namespace Integer

/-- Why a text is no number of the range. -/
inductive Error
  | empty
  | invalidDigit
  | tooLarge
  | tooSmall
deriving Repr, DecidableEq

/-- The wording of an error. -/
def Error.message : Error → String
  | .empty => "cannot parse integer from empty string"
  | .invalidDigit => "invalid digit found in string"
  | .tooLarge => "number too large to fit in target type"
  | .tooSmall => "number too small to fit in target type"

/-- The value of an ASCII digit. -/
def digit? (c : Char) : Option Nat :=
  if '0' ≤ c && c ≤ '9' then some (c.toNat - 48) else none

/-- The value of digits that go on from `value`, which may not pass `limit`. -/
def readDigits (limit : Nat) (overflow : Error) (value : Nat) : List Char → Except Error Nat
  | [] => .ok value
  | c :: rest =>
    match digit? c with
    | none => .error .invalidDigit
    | some d =>
      if value * 10 + d ≤ limit then readDigits limit overflow (value * 10 + d) rest
      else .error overflow

/-- The value of at least one digit. -/
def readNatural (limit : Nat) (overflow : Error) : List Char → Except Error Nat
  | [] => .error .invalidDigit
  | digits => readDigits limit overflow 0 digits

/-- The number from `-below` to `above` that a text writes. -/
def read (below above : Nat) : List Char → Except Error Int
  | [] => .error .empty
  | c :: rest =>
    if c = '+' then (readNatural above .tooLarge rest).map Int.ofNat
    else if c = '-' && below ≠ 0 then (readNatural below .tooSmall rest).map fun n => -(n : Int)
    else (readNatural above .tooLarge (c :: rest)).map Int.ofNat

/-- The natural number up to `above` that a text writes. -/
def readUpTo (above : Nat) (text : List Char) : Except Error Nat :=
  (read 0 above text).map Int.toNat

/-- The greatest number of sixty-four bits. -/
def maxUnsigned64 : Nat := 0xFFFFFFFFFFFFFFFF

/-- The greatest number of thirty-two bits. -/
def maxUnsigned32 : Nat := 0xFFFFFFFF

/-- The greatest number of sixty-four bits with a sign. -/
def maxSigned64 : Nat := 0x7FFFFFFFFFFFFFFF

/-- The magnitude of the least number of sixty-four bits with a sign. -/
def minSigned64 : Nat := 0x8000000000000000

end Integer

end Retrace
