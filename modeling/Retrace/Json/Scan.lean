import Retrace.Decimal.Integer
import Retrace.Json.Error
import Retrace.Text.Percent
/-!
# Words, strings and numbers of JSON

The parts of a JSON text that stand for themselves.  Each function takes the bytes still to be read
and gives what it read with the bytes after it, or the fault that it met.

A whole number keeps its value as long as it fits in sixty-four bits.  Any other number becomes a
double: its leading digits, as many as fit in sixty-four bits, times or divided by a power of ten.
-/

namespace Retrace

namespace Json

/-- The bytes with a meaning of their own. -/
def quote : UInt8 := 0x22
def backslash : UInt8 := 0x5C
def comma : UInt8 := 0x2C
def colon : UInt8 := 0x3A
def openList : UInt8 := 0x5B
def closeList : UInt8 := 0x5D
def openObject : UInt8 := 0x7B
def closeObject : UInt8 := 0x7D
def minus : UInt8 := 0x2D
def plus : UInt8 := 0x2B
def point : UInt8 := 0x2E

/-- Blanks between the parts of a text. -/
def isBlankByte (b : UInt8) : Bool :=
  b = 0x20 || b = 0x0A || b = 0x09 || b = 0x0D

/-- The bytes from the first one on that is no blank. -/
def skipBlank (s : Bytes) : Bytes :=
  s.dropWhile isBlankByte

/-- Whether a byte is a decimal digit. -/
def isDigit (b : UInt8) : Bool :=
  0x30 ≤ b && b ≤ 0x39

/-- Whether a byte is one of the two letters that start an exponent. -/
def isExponentMark (b : UInt8) : Bool :=
  b = 0x65 || b = 0x45

/-- Reads the rest of a word. -/
def word : Bytes → Bytes → Except Fault Bytes
  | [], s => .ok s
  | _ :: _, [] => .error (.here .eofInValue [])
  | w :: ws, b :: rest => if b = w then word ws rest else .error (.here .expectedWord rest)

/-- The rest of `null`, `true` and `false`. -/
def nullTail : Bytes := [0x75, 0x6C, 0x6C]
def trueTail : Bytes := [0x72, 0x75, 0x65]
def falseTail : Bytes := [0x61, 0x6C, 0x73, 0x65]

/-! ### Strings -/

/-- Reads four hexadecimal digits. -/
def hexFour : Bytes → Except Fault (Nat × Bytes)
  | a :: b :: c :: d :: rest =>
    match Percent.hexValue? a, Percent.hexValue? b, Percent.hexValue? c, Percent.hexValue? d with
    | some a, some b, some c, some d => .ok (((a * 16 + b) * 16 + c) * 16 + d, rest)
    | _, _, _, _ => .error (.here .invalidEscape rest)
  | _ => .error (.here .eofInString [])

/-- The bytes of the character with that code point. -/
def codePoint (n : Nat) : Bytes :=
  String.utf8EncodeChar (Char.ofNat n)

/-- Reads the second half of a surrogate pair, which is an escape of its own. -/
def lowSurrogate (high : Nat) : Bytes → Except Fault (Bytes × Bytes)
  | [] => .error (.here .eofInString [])
  | b :: rest =>
    if b = backslash then
      match rest with
      | [] => .error (.here .eofInString [])
      | u :: rest =>
        if u = 0x75 then
          match hexFour rest with
          | .error f => .error f
          | .ok (low, rest) =>
            if 0xDC00 ≤ low && low ≤ 0xDFFF then
              .ok (codePoint (0x10000 + (high - 0xD800) * 0x400 + (low - 0xDC00)), rest)
            else .error (.here .loneSurrogate rest)
        else .error (.here .unpairedSurrogate rest)
    else .error (.here .unpairedSurrogate rest)

/-- Reads an escape by code unit after its `u`. -/
def unitEscape (s : Bytes) : Except Fault (Bytes × Bytes) :=
  match hexFour s with
  | .error f => .error f
  | .ok (n, rest) =>
    if 0xDC00 ≤ n && n ≤ 0xDFFF then .error (.here .loneSurrogate rest)
    else if 0xD800 ≤ n && n ≤ 0xDBFF then lowSurrogate n rest
    else .ok (codePoint n, rest)

/-- The byte that a one-letter escape stands for. -/
def letterEscape? (b : UInt8) : Option UInt8 :=
  if b = quote || b = backslash || b = 0x2F then some b
  else if b = 0x62 then some 0x08
  else if b = 0x66 then some 0x0C
  else if b = 0x6E then some 0x0A
  else if b = 0x72 then some 0x0D
  else if b = 0x74 then some 0x09
  else none

/-- Reads an escape after its backslash. -/
def escape : Bytes → Except Fault (Bytes × Bytes)
  | [] => .error (.here .eofInString [])
  | b :: rest =>
    match letterEscape? b with
    | some byte => .ok ([byte], rest)
    | none => if b = 0x75 then unitEscape rest else .error (.here .invalidEscape rest)

/-- Reads a string after its first quote, up to and with its last one.  Each round reads a byte, so
that as many rounds as there are bytes are enough. -/
def stringBody : Bytes → Bytes → Except Fault (Bytes × Bytes)
  | _, [] => .error (.here .eofInString [])
  | [], rest => .error (.here .eofInString rest)
  | _ :: rounds, b :: rest =>
    if b = quote then .ok ([], rest)
    else if b = backslash then
      match escape rest with
      | .error f => .error f
      | .ok (bytes, rest) => (stringBody rounds rest).map fun p => (bytes ++ p.1, p.2)
    else if b < 0x20 then .error (.here .controlCharacter rest)
    else (stringBody rounds rest).map fun p => (b :: p.1, p.2)

/-- The fault of a string whose bytes are no text from `index` on.  It is placed as far before the
end of the string as its first bad byte is before the end of the bytes, whether or not those were
written as escapes; the string starts after its quote in `s` and is followed by `rest`. -/
def badText (index : Nat) (bytes s rest : Bytes) : Fault :=
  .here .invalidCodePoint (s.drop (s.length + index - (bytes.length + rest.length)))

/-- Reads a string after its first quote. -/
def string (s : Bytes) : Except Fault (List Char × Bytes) :=
  match stringBody s s with
  | .error f => .error f
  | .ok (bytes, rest) =>
    match Utf8.decode? bytes with
    | .ok text => .ok (text, rest)
    | .error e => .error (badText e.index bytes s rest)

/-! ### Numbers -/

/-- A number as it was written. -/
inductive Number
  | natural (n : Nat)
  /-- The number below zero of that magnitude. -/
  | negative (n : Nat)
  | floating (f : Float)

/-- A number as something found in place of another value. -/
def Number.found : Number → Found
  | .natural n => .integer n
  | .negative n => .integer (-(n : Int))
  | .floating f => .floating f.toBits

/-- The values of the digits at the front, and what follows them. -/
def spanDigits (s : Bytes) : List Nat × Bytes :=
  ((s.takeWhile isDigit).map fun b => b.toNat - 0x30, s.dropWhile isDigit)

/-- Takes in digits as long as the value stays at most `limit`, and gives the digits left over. -/
def absorb (limit value : Nat) : List Nat → Nat × List Nat
  | [] => (value, [])
  | d :: rest =>
    if value * 10 + d ≤ limit then absorb limit (value * 10 + d) rest else (value, d :: rest)

/-- The greatest number that keeps its value. -/
def maxSignificand : Nat := Integer.maxUnsigned64

/-- The greatest exponent that is read digit by digit. -/
def maxExponent : Nat := 0x7FFFFFFF

/-- The double of a power of ten. -/
def powerOfTen (k : Nat) : Float :=
  Float.ofScientific 1 false k

/-- The product of a double and a power of ten, none where it is infinite.  Divisors past the range
of doubles are applied in parts; after a few of them nothing is left to divide. -/
def scale? (f : Float) (exponent : Int) : Nat → Option Float
  | 0 => some f
  | parts + 1 =>
    if exponent.natAbs ≤ 308 then
      if 0 ≤ exponent then
        let product := f * powerOfTen exponent.natAbs
        if product.isInf then none else some product
      else some (f / powerOfTen exponent.natAbs)
    else if f == 0.0 then some f
    else if 0 ≤ exponent then none
    else scale? (f / powerOfTen 308) (exponent + 308) parts

/-- The double of `significand * 10 ^ exponent`, with its sign. -/
def toDouble (positive : Bool) (significand : Nat) (exponent : Int) (rest : Bytes) :
    Except Fault (Number × Bytes) :=
  match scale? significand.toUInt64.toFloat exponent 8 with
  | none => .error (.here .numberOutOfRange rest)
  | some f => .ok (.floating (if positive then f else -f), rest)

/-- Takes in the digits of an exponent; `none` with the bytes after the digit that made it too
great. -/
def exponentDigits (value : Nat) : Bytes → Option Nat × Bytes
  | [] => (some value, [])
  | b :: rest =>
    if isDigit b then
      let next := value * 10 + (b.toNat - 0x30)
      if next ≤ maxExponent then exponentDigits next rest else (none, rest)
    else (some value, b :: rest)

/-- Reads an exponent after its mark. -/
def exponentPart (positive : Bool) (significand : Nat) (start : Int) (s : Bytes) :
    Except Fault (Number × Bytes) :=
  let (up, s) :=
    match s with
    | b :: rest => if b = plus then (true, rest) else if b = minus then (false, rest) else (true, s)
    | [] => (true, s)
  match s with
  | [] => .error (.here .eofInValue [])
  | b :: rest =>
    if isDigit b then
      match exponentDigits (b.toNat - 0x30) rest with
      | (some e, rest) =>
        toDouble positive significand (if up then start + e else start - e) rest
      | (none, rest) =>
        if significand ≠ 0 && up then .error (.here .numberOutOfRange rest)
        else .ok (.floating (if positive then 0.0 else -0.0), rest.dropWhile isDigit)
    else .error (.here .invalidNumber rest)

/-- Goes on after the digits of a number that is to become a double. -/
def afterDigits (positive : Bool) (significand : Nat) (exponent : Int) (s : Bytes) :
    Except Fault (Number × Bytes) :=
  match s with
  | b :: rest =>
    if isExponentMark b then exponentPart positive significand exponent rest
    else toDouble positive significand exponent s
  | [] => toDouble positive significand exponent s

/-- Reads the digits after a point. -/
def fractionPart (positive : Bool) (significand : Nat) (exponent : Int) (s : Bytes) :
    Except Fault (Number × Bytes) :=
  let (ds, rest) := spanDigits s
  let (value, ignored) := absorb maxSignificand significand ds
  if ds.isEmpty then
    match rest with
    | [] => .error (.ahead .eofInValue [])
    | _ => .error (.ahead .invalidNumber rest)
  else afterDigits positive value (exponent - (ds.length - ignored.length : Nat)) rest

/-- A whole number within sixty-four bits.  Zero below zero, and what is too far below it, become
doubles. -/
def whole (positive : Bool) (n : Nat) : Number :=
  if positive then .natural n
  else if n = 0 || Integer.minSigned64 < n then .floating (-n.toUInt64.toFloat)
  else .negative n

/-- Goes on after the digits of the whole part; `ignored` of them were left out of the value. -/
def afterWhole (positive : Bool) (value ignored : Nat) (s : Bytes) :
    Except Fault (Number × Bytes) :=
  match s with
  | b :: rest =>
    if b = point then fractionPart positive value ignored rest
    else if isExponentMark b then exponentPart positive value ignored rest
    else if ignored = 0 then .ok (whole positive value, s)
    else toDouble positive value ignored s
  | [] => if ignored = 0 then .ok (whole positive value, s) else toDouble positive value ignored s

/-- Reads a number after its sign.  A zero in front may not be followed by another digit. -/
def number (positive : Bool) : Bytes → Except Fault (Number × Bytes)
  | [] => .error (.here .eofInValue [])
  | b :: rest =>
    if b = 0x30 then
      match rest with
      | next :: _ =>
        if isDigit next then .error (.ahead .invalidNumber rest) else afterWhole positive 0 0 rest
      | [] => afterWhole positive 0 0 rest
    else if isDigit b then
      let (ds, rest) := spanDigits (b :: rest)
      let (value, ignored) := absorb maxSignificand 0 ds
      afterWhole positive value ignored.length rest
    else .error (.here .invalidNumber rest)

end Json

end Retrace
