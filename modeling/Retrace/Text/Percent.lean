import Retrace.Text.Utf8
/-!
# Percent-encoding

A byte may be written as a percent sign and its two hexadecimal digits.  A percent sign that two
such digits do not follow stands for itself.
-/

namespace Retrace

namespace Percent

/-- The value of a hexadecimal digit of either case. -/
def hexValue? (b : UInt8) : Option Nat :=
  let n := b.toNat
  if 48 ≤ n && n ≤ 57 then some (n - 48)
  else if 65 ≤ n && n ≤ 70 then some (n - 55)
  else if 97 ≤ n && n ≤ 102 then some (n - 87)
  else none

/-- The hexadecimal digit of a value below sixteen, in upper case. -/
def hexSymbol (d : Nat) : UInt8 :=
  if d < 10 then UInt8.ofNat (d + 48) else UInt8.ofNat (d + 55)

/-- The percent sign. -/
def sign : UInt8 := 0x25

/-- The byte written as two hexadecimal digits. -/
def byte? (high low : UInt8) : Option UInt8 :=
  match hexValue? high, hexValue? low with
  | some h, some l => some (UInt8.ofNat (h * 16 + l))
  | _, _ => none

/-- The bytes that a percent-encoded byte string stands for. -/
def decode : Bytes → Bytes
  | b :: high :: low :: rest =>
    match if b = sign then byte? high low else none with
    | some byte => byte :: decode rest
    | none => b :: decode (high :: low :: rest)
  | short => short

/-- A byte as a percent sign and two digits. -/
def escape (b : UInt8) : Bytes :=
  [sign, hexSymbol (b.toNat / 16), hexSymbol (b.toNat % 16)]

/-- A byte string with an escape for each byte that is not `plain`. -/
def encode (plain : UInt8 → Bool) (bytes : Bytes) : Bytes :=
  bytes.flatMap fun b => if plain b then [b] else escape b

/-- The bytes that never need an escape: letters, digits and the four marks that go with them. -/
def isUnreserved (b : UInt8) : Bool :=
  let n := b.toNat
  (65 ≤ n && n ≤ 90) || (97 ≤ n && n ≤ 122) || (48 ≤ n && n ≤ 57) || n = 45 || n = 46 || n = 95 ||
    n = 126

/-- A text with an escape for each byte that is not `plain`, where only ASCII may be plain. -/
def encodeText (plain : Char → Bool) (text : List Char) : List Char :=
  text.flatMap fun c =>
    if c.toNat < 0x80 && plain c then [c]
    else (encode (fun _ => false) (String.utf8EncodeChar c)).map fun b => Char.ofNat b.toNat

end Percent

end Retrace
