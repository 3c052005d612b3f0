import Retrace.Text.Utf8
/-!
# Base64

The standard alphabet of sixty-four digits and the form of byte strings written in it, four digits
for three bytes.  Padding at the end may be there or not, in full or in part, but the bits of the
last digit that belong to no byte have to be zero.
-/

namespace Retrace

namespace Base64

/-- The byte that pads the last group. -/
def pad : UInt8 := 0x3D

/-- The value of a digit. -/
def digit? (b : UInt8) : Option Nat :=
  let n := b.toNat
  if 65 ≤ n && n ≤ 90 then some (n - 65)
  else if 97 ≤ n && n ≤ 122 then some (n - 71)
  else if 48 ≤ n && n ≤ 57 then some (n + 4)
  else if n = 43 then some 62
  else if n = 47 then some 63
  else none

/-- The digit of a value below sixty-four. -/
def symbol (d : Nat) : UInt8 :=
  if d < 26 then UInt8.ofNat (d + 65)
  else if d < 52 then UInt8.ofNat (d + 71)
  else if d < 62 then UInt8.ofNat (d - 4)
  else if d = 62 then 43
  else 47

theorem digit?_symbol {d : Nat} (h : d < 64) : digit? (symbol d) = some d := by
  revert d
  decide

/-- Why a byte string is not the base64 form of any other. -/
inductive Error
  /-- The byte at that offset is no digit, or is padding where none may stand. -/
  | symbol (byte : UInt8) (offset : Nat)
  /-- The last group has a single digit; so many bytes were read. -/
  | length (read : Nat)
  /-- The last digit, at that offset, has bits that belong to no byte. -/
  | lastSymbol (byte : UInt8) (offset : Nat)
deriving Repr, DecidableEq

/-- The wording of an error. -/
def Error.message : Error → String
  | .symbol byte offset => s!"Invalid symbol {byte}, offset {offset}."
  | .length read => s!"Invalid input length: {read}"
  | .lastSymbol byte offset => s!"Invalid last symbol {byte}, offset {offset}."

/-- The values of bytes that are all digits; `offset` counts the bytes before them. -/
def digits (offset : Nat) : Bytes → Except Error (List Nat)
  | [] => .ok []
  | b :: rest =>
    match digit? b with
    | none => .error (.symbol b offset)
    | some d => (digits (offset + 1) rest).map (d :: ·)

/-- The values of the digits in the last group, of at most four bytes.  Padding may stand only
after two digits and only at the end; `index` counts the bytes of the group before these, and
`padAt` is the offset of the first padding. -/
def lastDigits (start index : Nat) (padAt : Option Nat) : Bytes → Except Error (List Nat)
  | [] => .ok []
  | b :: rest =>
    if b = pad then
      if index < 2 then .error (.symbol b (start + index))
      else lastDigits start (index + 1) (some (padAt.getD (start + index))) rest
    else
      match padAt, digit? b with
      | some offset, _ => .error (.symbol pad offset)
      | none, none => .error (.symbol b (start + index))
      | none, some d => (lastDigits start (index + 1) none rest).map (d :: ·)

/-- The bits of the last digit of a group that belong to no byte. -/
def spareBits : List Nat → Nat
  | [_, b] => b % 16
  | [_, _, c] => c % 4
  | _ => 0

/-- The digits of the last group, checked. -/
def lastGroup (start : Nat) (group : Bytes) : Except Error (List Nat) :=
  match lastDigits start 0 none group with
  | .error e => .error e
  | .ok ds =>
    if ds.length < 2 then
      if group.isEmpty then .ok ds else .error (.length (start + ds.length))
    else if spareBits ds = 0 then .ok ds
    else .error (.lastSymbol (group.getD (ds.length - 1) pad) (start + (ds.length - 1)))

/-- The bytes that digits stand for, three for each four. -/
def pack : List Nat → Bytes
  | a :: b :: c :: d :: rest =>
    UInt8.ofNat (a * 4 + b / 16) :: UInt8.ofNat (b % 16 * 16 + c / 4) ::
      UInt8.ofNat (c % 4 * 64 + d) :: pack rest
  | [a, b, c] => [UInt8.ofNat (a * 4 + b / 16), UInt8.ofNat (b % 16 * 16 + c / 4)]
  | [a, b] => [UInt8.ofNat (a * 4 + b / 16)]
  | _ => []

/-- How many bytes stand before the last group, which is never empty unless all is. -/
def leadingLength (length : Nat) : Nat :=
  if length % 4 = 0 then length - 4 else length - length % 4

/-- A single last byte that is neither a digit nor padding is reported before anything else. -/
def strayLast? (bytes : Bytes) : Option Error :=
  match bytes.getLast? with
  | some b =>
    if bytes.length % 4 = 1 && b ≠ pad && (digit? b).isNone then some (.symbol b (bytes.length - 1))
    else none
  | none => none

/-- The byte string whose base64 form is given. -/
def decode? (bytes : Bytes) : Except Error Bytes :=
  match strayLast? bytes with
  | some e => .error e
  | none =>
    let start := leadingLength bytes.length
    match digits 0 (bytes.take start) with
    | .error e => .error e
    | .ok leading => (lastGroup start (bytes.drop start)).map fun last => pack (leading ++ last)

/-- The digits of a byte string. -/
def unpack : Bytes → List Nat
  | a :: b :: c :: rest =>
    a.toNat / 4 :: (a.toNat % 4 * 16 + b.toNat / 16) :: (b.toNat % 16 * 4 + c.toNat / 64) ::
      c.toNat % 64 :: unpack rest
  | [a, b] => [a.toNat / 4, a.toNat % 4 * 16 + b.toNat / 16, b.toNat % 16 * 4]
  | [a] => [a.toNat / 4, a.toNat % 4 * 16]
  | [] => []

/-- The base64 form of a byte string, without padding. -/
def encode (bytes : Bytes) : Bytes :=
  (unpack bytes).map symbol

/-- The base64 form of a byte string, padded to whole groups. -/
def encodePadded (bytes : Bytes) : Bytes :=
  encode bytes ++ List.replicate ((3 - bytes.length % 3) % 3) pad

end Base64

end Retrace
