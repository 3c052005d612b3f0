import Retrace.Text.Base64
/-!
# Variable-length quantities

A number in base64 digits.  Each digit carries five bits of the number, the lowest ones first, and
its sixth bit says that more digits follow; the lowest bit of the number is its sign.

`Vlq.decode?` reads a text of such numbers, `Vlq.encode` writes one with the fewest digits.
-/

namespace Retrace

namespace Vlq

/-- Why a text is no sequence of numbers. -/
inductive Error
  /-- A byte that is no digit. -/
  | badDigit (byte : UInt8)
  /-- The text ends within a number. -/
  | truncated
  /-- A number has more than seven digits. -/
  | overflow
deriving Repr, DecidableEq

/-- The number of digits that a number may have. -/
def maxDigits : Nat := 7

/-- The number whose magnitude and sign are given together, the sign as the lowest bit. -/
def ofSigned (bits : Nat) : Int :=
  if bits % 2 = 0 then (bits / 2 : Nat) else -((bits / 2 : Nat) : Int)

/-- Reads numbers from within one of which `count` digits were read, with the given bits. -/
def decodeFrom (count bits : Nat) : Bytes → Except Error (List Int)
  | [] => if count = 0 then .ok [] else .error .truncated
  | b :: rest =>
    if maxDigits ≤ count then .error .overflow
    else
      match Base64.digit? b with
      | none => .error (.badDigit b)
      | some digit =>
        let bits := bits + (digit % 32) <<< (5 * count)
        if digit < 32 then (decodeFrom 0 0 rest).map (ofSigned bits :: ·)
        else decodeFrom (count + 1) bits rest

/-- The numbers that a text writes. -/
def decode? (text : Bytes) : Except Error (List Int) :=
  decodeFrom 0 0 text

/-- Magnitude and sign together, the sign as the lowest bit. -/
def toSigned (n : Int) : Nat :=
  if n < 0 then 2 * n.natAbs + 1 else 2 * n.natAbs

/-- The digits of a number in base thirty-two, the lowest first, each but the last with the mark
that more digits follow. -/
def groups (bits : Nat) : List Nat :=
  if bits < 32 then [bits] else (bits % 32 + 32) :: groups (bits / 32)
termination_by bits

/-- The text of a number with the fewest digits. -/
def encodeOne (n : Int) : Bytes :=
  (groups (toSigned n)).map Base64.symbol

/-- The text of numbers. -/
def encode (numbers : List Int) : Bytes :=
  numbers.flatMap encodeOne

@[simp] theorem ofSigned_toSigned (n : Int) : ofSigned (toSigned n) = n := by
  unfold ofSigned toSigned
  split <;> split <;> omega

end Vlq

end Retrace
