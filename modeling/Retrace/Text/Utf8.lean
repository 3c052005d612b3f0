/-!
# UTF-8 text

Byte strings and the text they hold.  A byte string is read by a machine that takes one byte at a
time and remembers the character it stands in, so that every byte string splits into pieces:
characters, runs of bytes that no character can start with or go on with, and a character cut off
by the end of the string.

The two readings differ only in what they make of the pieces: `Utf8.lossy` puts the replacement
character for each piece that is no character, `Utf8.decode?` reports the first of them.
-/

namespace Retrace

/-- A byte string, such as the content of a file or the body of a reply. -/
abbrev Bytes := List UInt8

namespace Utf8

/-- The bytes of a text. -/
def encode (text : List Char) : Bytes :=
  text.flatMap String.utf8EncodeChar

/-- The bytes of a string. -/
def ofString (s : String) : Bytes :=
  encode s.toList

/-- A character of which some bytes are still to come. -/
structure Pending where
  /-- Bytes still to come, at least one. -/
  need : Nat
  /-- The least byte that may come next. -/
  low : UInt8
  /-- The greatest byte that may come next. -/
  high : UInt8
  /-- The bits of the code point read so far. -/
  code : Nat
  /-- Bytes of the character read so far. -/
  taken : Nat
deriving Repr, DecidableEq

/-- What the first byte of a character says. -/
inductive Lead
  | single (c : Char)
  | multi (p : Pending)
  | invalid
deriving Repr, DecidableEq

/-- Reads the first byte of a character.  The bounds on the second byte exclude overlong forms,
surrogates and code points past the last plane. -/
def lead (b : UInt8) : Lead :=
  if b < 0x80 then .single (Char.ofNat b.toNat)
  else if b < 0xC2 then .invalid
  else if b < 0xE0 then .multi ⟨1, 0x80, 0xBF, b.toNat - 0xC0, 1⟩
  else if b = 0xE0 then .multi ⟨2, 0xA0, 0xBF, 0, 1⟩
  else if b = 0xED then .multi ⟨2, 0x80, 0x9F, 0xD, 1⟩
  else if b < 0xF0 then .multi ⟨2, 0x80, 0xBF, b.toNat - 0xE0, 1⟩
  else if b = 0xF0 then .multi ⟨3, 0x90, 0xBF, 0, 1⟩
  else if b < 0xF4 then .multi ⟨3, 0x80, 0xBF, b.toNat - 0xF0, 1⟩
  else if b = 0xF4 then .multi ⟨3, 0x80, 0x8F, 4, 1⟩
  else .invalid

/-- Whether a byte goes on with a pending character. -/
def Pending.accepts (p : Pending) (b : UInt8) : Bool :=
  p.low ≤ b && b ≤ p.high

/-- The code point with the six bits of one more byte. -/
def Pending.extend (p : Pending) (b : UInt8) : Nat :=
  p.code * 64 + (b.toNat - 0x80)

/-- A piece of a byte string. -/
inductive Piece
  | char (c : Char)
  /-- A run of that many bytes that is no part of any text. -/
  | bad (length : Nat)
  /-- The first bytes of a character at the end of the string. -/
  | cut (length : Nat)
deriving Repr, DecidableEq

/-- The pieces that start with byte `b`, where `go` gives those after it. -/
def enter (b : UInt8) (go : Option Pending → List Piece) : List Piece :=
  match lead b with
  | .single c => .char c :: go none
  | .multi p => go (some p)
  | .invalid => .bad 1 :: go none

/-- The pieces of a byte string that is read from within a pending character, if there is one.  A
byte that does not go on with the pending character ends the run before it and is read again as a
first byte. -/
def piecesFrom : Bytes → Option Pending → List Piece
  | [], none => []
  | [], some p => [.cut p.taken]
  | b :: rest, none => enter b (piecesFrom rest)
  | b :: rest, some p =>
    if p.accepts b then
      if p.need ≤ 1 then .char (Char.ofNat (p.extend b)) :: piecesFrom rest none
      else piecesFrom rest (some ⟨p.need - 1, 0x80, 0xBF, p.extend b, p.taken + 1⟩)
    else .bad p.taken :: enter b (piecesFrom rest)

/-- The pieces of a byte string. -/
def pieces (bytes : Bytes) : List Piece :=
  piecesFrom bytes none

/-- The character that stands for bytes that are no text. -/
def replacement : Char := '\uFFFD'

/-- The text of one piece in the lossy reading. -/
def Piece.toChar : Piece → Char
  | .char c => c
  | .bad _ => replacement
  | .cut _ => replacement

/-- The text of a byte string, with the replacement character for each run that is no text. -/
def lossy (bytes : Bytes) : List Char :=
  (pieces bytes).map Piece.toChar

/-- Why a byte string is no text. -/
inductive Error
  /-- That many bytes from that index on are no part of a text. -/
  | invalid (length index : Nat)
  /-- The string ends within the character that starts at that index. -/
  | incomplete (index : Nat)
deriving Repr, DecidableEq

/-- The index of the first byte that belongs to no text. -/
def Error.index : Error → Nat
  | .invalid _ index => index
  | .incomplete index => index

/-- The wording of an error. -/
def Error.message : Error → String
  | .invalid length index => s!"invalid utf-8 sequence of {length} bytes from index {index}"
  | .incomplete index => s!"incomplete utf-8 byte sequence from index {index}"

/-- The text of pieces that are all characters; `index` counts the bytes before them. -/
def textOf : Nat → List Piece → Except Error (List Char)
  | _, [] => .ok []
  | index, .char c :: rest =>
    match textOf (index + c.utf8Size) rest with
    | .ok text => .ok (c :: text)
    | .error e => .error e
  | index, .bad length :: _ => .error (.invalid length index)
  | index, .cut _ :: _ => .error (.incomplete index)

/-- The text of a byte string that is wholly text. -/
def decode? (bytes : Bytes) : Except Error (List Char) :=
  textOf 0 (pieces bytes)

@[simp] theorem encode_nil : encode [] = [] := rfl

@[simp] theorem encode_append (s t : List Char) : encode (s ++ t) = encode s ++ encode t := by
  simp [encode]

end Utf8

end Retrace
