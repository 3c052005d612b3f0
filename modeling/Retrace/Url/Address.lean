import Retrace.Text.Percent
import Retrace.Text.Search
/-!
# Internet addresses

Addresses of four bytes, written as one to four numbers of which the last one fills what the others
leave, and addresses of eight pieces, in which one run of zeros may be left out.
-/

namespace Retrace

namespace Url

namespace Address

/-- The value of a digit in a base up to sixteen. -/
def digit? (base : Nat) (c : Char) : Option Nat :=
  if c.toNat < 0x80 then
    (Percent.hexValue? (UInt8.ofNat c.toNat)).filter (· < base)
  else none

/-- The value of digits in a base, none where one of them is no digit. -/
def value? (base : Nat) (digits : List Char) : Option Nat :=
  digits.foldl (fun value c =>
    match value, digit? base c with
    | some n, some d => some (n * base + d)
    | _, _ => none) (some 0)

/-- The digits of a number of an address and their base. -/
def withoutMark : List Char → Nat × List Char
  | '0' :: 'x' :: rest => (16, rest)
  | '0' :: 'X' :: rest => (16, rest)
  | '0' :: c :: rest => (8, c :: rest)
  | text => (10, text)

/-- A number of an address of four bytes, in base eight, ten or sixteen. -/
def number? (text : List Char) : Option Nat :=
  if text.isEmpty then none
  else
    let (base, digits) := withoutMark text
    value? base digits

/-- The parts of a domain name, without an empty one at its end. -/
def parts (name : List Char) : List (List Char) :=
  let list := Text.splitOn '.' name
  if list.getLast? = some [] then list.dropLast else list

/-- Whether a domain name is to be read as an address of four bytes. -/
def endsInNumber (name : List Char) : Bool :=
  match (parts name).getLast? with
  | none => false
  | some last => (!last.isEmpty && last.all fun c => '0' ≤ c && c ≤ '9') || (number? last).isSome

/-- The address of numbers, of which all but the last are bytes. -/
def ofNumbers? (numbers : List Nat) : Option Nat :=
  match numbers.getLast? with
  | none => none
  | some last =>
    let leading := numbers.dropLast
    let width := 8 * (4 - leading.length)
    if leading.length ≤ 3 && leading.all (· ≤ 255) && last < 1 <<< width then
      some ((leading.foldl (fun sum n => sum * 256 + n) 0) <<< width + last)
    else none

/-- The address of four bytes that a domain name writes. -/
def ipv4? (name : List Char) : Option Nat :=
  let list := parts name
  if 4 < list.length then none else (list.mapM number?).bind ofNumbers?

/-- The text of an address of four bytes. -/
def ipv4Text (address : Nat) : List Char :=
  Text.joinWith ['.']
    ([address >>> 24, address >>> 16, address >>> 8, address].map fun n =>
      Nat.toDigits 10 (n % 256))

/-- A byte in decimal without leading zeros. -/
def byte? (text : List Char) : Option Nat :=
  if text.isEmpty || (text.head? = some '0' && text ≠ ['0']) || 3 < text.length then none
  else (value? 10 text).filter (· ≤ 255)

/-- The two pieces that an address of four bytes fills. -/
def embedded? (text : List Char) : Option (List Nat) :=
  match (Text.splitOn '.' text).mapM byte? with
  | some [a, b, c, d] => some [a * 256 + b, c * 256 + d]
  | _ => none

/-- A piece of one to four digits. -/
def piece? (text : List Char) : Option Nat :=
  if text.isEmpty || 4 < text.length then none else value? 16 text

/-- The pieces of a text, of which the last one may be an address of four bytes where `embed` says
so. -/
def pieces? (embed : Bool) (text : List Char) : Option (List Nat) :=
  let list := Text.splitOn ':' text
  match list.getLast? with
  | none => none
  | some last =>
    if embed && last.contains '.' then
      match list.dropLast.mapM piece?, embedded? last with
      | some leading, some two => some (leading ++ two)
      | _, _ => none
    else list.mapM piece?

/-- The pieces of a part next to a run that is left out, which may be empty. -/
def side? (embed : Bool) (text : List Char) : Option (List Nat) :=
  if text.isEmpty then some [] else pieces? embed text

/-- The eight pieces of an address. -/
def ipv6? (text : List Char) : Option (List Nat) :=
  match Text.splitFirst? [':', ':'] text with
  | none => (pieces? true text).filter (·.length = 8)
  | some (before, after) =>
    match side? false before, side? true after with
    | some before, some after =>
      if before.length + after.length ≤ 7 then
        some (before ++ List.replicate (8 - before.length - after.length) 0 ++ after)
      else none
    | _, _ => none

/-- The length of the run of zeros at the front. -/
def zeros (pieces : List Nat) : Nat :=
  (pieces.takeWhile (· = 0)).length

/-- Where the longest run of zeros starts and how long it is; the first of several. -/
def longestZeros (pieces : List Nat) : Nat × Nat :=
  (List.range pieces.length).foldl (fun best start =>
    let length := zeros (pieces.drop start)
    if best.2 < length then (start, length) else best) (0, 0)

/-- Pieces with colons between them. -/
def piecesText (pieces : List Nat) : List Char :=
  Text.joinWith [':'] (pieces.map (Nat.toDigits 16))

/-- The text of an address of eight pieces.  The longest run of two or more zeros is left out. -/
def ipv6Text (pieces : List Nat) : List Char :=
  let (start, length) := longestZeros pieces
  if length < 2 then piecesText pieces
  else piecesText (pieces.take start) ++ [':', ':'] ++ piecesText (pieces.drop (start + length))

end Address

end Url

end Retrace
