import Retrace.Decimal.Integer
import Retrace.Toml.Text
/-!
# Numbers, dates and times in TOML

Whole numbers have sixty-four bits and a sign and may be written in four bases; other numbers are
kept as they were written, as are dates and times.
-/

namespace Retrace

namespace Toml

/-! ### Digits -/

/-- Whether a character is a decimal digit. -/
def isDigit (c : Char) : Bool :=
  '0' ≤ c && c ≤ '9'

/-- Reads the digits after a first one, where an underscore may stand between two of them. -/
def moreDigits (digit : Char → Bool) : List Char → Scan (List Char)
  | '_' :: c :: rest =>
    if digit c then (moreDigits digit rest).map fun p => (c :: p.1, p.2) else .error .malformed
  | ['_'] => .error .malformed
  | c :: rest =>
    if digit c then (moreDigits digit rest).map fun p => (c :: p.1, p.2) else .ok ([], c :: rest)
  | [] => .ok ([], [])

/-- Reads digits, at least one. -/
def digits (digit : Char → Bool) : List Char → Scan (List Char)
  | c :: rest =>
    if digit c then (moreDigits digit rest).map fun p => (c :: p.1, p.2) else .error .malformed
  | [] => .error .malformed

/-- The number that digits write in a base. -/
def valueIn (base : Nat) (ds : List Char) : Nat :=
  ds.foldl (fun value c => value * base + (hexDigit? c).getD 0) 0

/-! ### Whole numbers -/

/-- Whether a character is a digit in a base up to sixteen. -/
def isDigitIn (base : Nat) (c : Char) : Bool :=
  match hexDigit? c with
  | some d => d < base
  | none => false

/-- A number of the range. -/
def ranged (negative : Bool) (n : Nat) : Except Error Item :=
  if n ≤ (if negative then Integer.minSigned64 else Integer.maxSigned64) then
    .ok (.integer (if negative then -(n : Int) else n))
  else .error .outOfRange

/-- Reads the digits of a whole number in a base that is not ten. -/
def integerIn (base : Nat) (s : List Char) : Scan Item :=
  match digits (isDigitIn base) s with
  | .error e => .error e
  | .ok (ds, rest) => (ranged false (valueIn base ds)).map fun item => (item, rest)

/-! ### Other numbers -/

/-- The least whole number that no double is near to. -/
def pastDoubles : Nat := (1 <<< 1024) - (1 <<< 970)

/-- Whether `significand * 10 ^ exponent` is too great for a double. -/
def isPastDoubles (significand : Nat) (exponent : Int) : Bool :=
  if significand = 0 then false
  else
    let size : Int := (Nat.toDigits 10 significand).length + exponent
    if size ≤ 300 then false
    else if 320 ≤ size then true
    else if 0 ≤ exponent then pastDoubles ≤ significand * Nat.pow 10 exponent.toNat
    else pastDoubles * Nat.pow 10 (-exponent).toNat ≤ significand

/-- Reads the sign and the digits of an exponent after its mark. -/
def exponent (s : List Char) : Scan Int :=
  let (negative, s) :=
    match s with
    | '-' :: rest => (true, rest)
    | '+' :: rest => (false, rest)
    | _ => (false, s)
  (digits isDigit s).map fun p =>
    (if negative then -(valueIn 10 p.1 : Int) else valueIn 10 p.1, p.2)

/-- Reads an exponent if there is one. -/
def exponentPart (s : List Char) : Scan Int :=
  match s with
  | 'e' :: rest => exponent rest
  | 'E' :: rest => exponent rest
  | _ => .ok (0, s)

/-- The part of a text that stands before the text that follows it. -/
def before (text rest : List Char) : String :=
  String.ofList (text.take (text.length - rest.length))

/-- A number that is not whole, from the text that starts with it and the one that follows it.  One
that is too great is refused, unless it is below zero. -/
def floating (negative : Bool) (text : List Char) (significand : Nat) (exponent : Int)
    (rest : List Char) : Scan Item :=
  if !negative && isPastDoubles significand exponent then .error .outOfRange
  else .ok (.float (before text rest), rest)

/-- Goes on after the whole part of a number, which starts `text`. -/
def afterWhole (negative : Bool) (text ds s : List Char) : Scan Item :=
  match s with
  | '.' :: rest =>
    match digits isDigit rest with
    | .error e => .error e
    | .ok (fraction, rest) =>
      match exponentPart rest with
      | .error e => .error e
      | .ok (exponent, rest) =>
        floating negative text (valueIn 10 (ds ++ fraction)) (exponent - fraction.length) rest
  | 'e' :: _ | 'E' :: _ =>
    match exponentPart s with
    | .error e => .error e
    | .ok (exponent, rest) => floating negative text (valueIn 10 ds) exponent rest
  | _ => (ranged negative (valueIn 10 ds)).map fun item => (item, s)

/-- Reads a number after its sign; `text` starts with the sign. -/
def unsigned (negative : Bool) (text : List Char) : List Char → Scan Item
  | 'i' :: 'n' :: 'f' :: rest => .ok (.float (before text rest), rest)
  | 'n' :: 'a' :: 'n' :: rest => .ok (.float (before text rest), rest)
  | '0' :: rest => afterWhole negative text ['0'] rest
  | c :: rest =>
    if isDigit c then
      match digits isDigit (c :: rest) with
      | .error e => .error e
      | .ok (ds, rest) => afterWhole negative text ds rest
    else .error .malformed
  | [] => .error .malformed

/-- Reads a number. -/
def number (s : List Char) : Scan Item :=
  match s with
  | '0' :: 'x' :: rest => integerIn 16 rest
  | '0' :: 'o' :: rest => integerIn 8 rest
  | '0' :: 'b' :: rest => integerIn 2 rest
  | '-' :: rest => unsigned true s rest
  | '+' :: rest => unsigned false s rest
  | _ => unsigned false s s

/-! ### Dates and times -/

/-- Reads exactly so many digits as a number of a range. -/
def field (width low high : Nat) (s : List Char) : Scan Nat :=
  let ds := s.take width
  if ds.length = width && ds.all isDigit then
    let value := valueIn 10 ds
    if low ≤ value && value ≤ high then .ok (value, s.drop width) else .error .outOfRange
  else .error .malformed

/-- Reads a given character. -/
def mark (c : Char) : List Char → Except Error (List Char)
  | d :: rest => if c = d then .ok rest else .error .malformed
  | [] => .error .malformed

/-- The number of days of a month. -/
def daysIn (year month : Nat) : Nat :=
  if month = 2 then
    if year % 4 = 0 && (year % 100 ≠ 0 || year % 400 = 0) then 29 else 28
  else if [4, 6, 9, 11].contains month then 30
  else 31

/-- Passes over a date. -/
def skipDate (s : List Char) : Except Error (List Char) := do
  let (year, s) ← field 4 0 9999 s
  let s ← mark '-' s
  let (month, s) ← field 2 1 12 s
  let s ← mark '-' s
  let (_, s) ← field 2 1 (daysIn year month) s
  return s

/-- Passes over a time. -/
def skipTime (s : List Char) : Except Error (List Char) := do
  let (_, s) ← field 2 0 23 s
  let s ← mark ':' s
  let (_, s) ← field 2 0 59 s
  let s ← mark ':' s
  let (_, s) ← field 2 0 60 s
  match s with
  | '.' :: rest =>
    if (rest.takeWhile isDigit).isEmpty then .ok s else .ok (rest.dropWhile isDigit)
  | _ => .ok s

/-- Whether a text starts with a date. -/
def startsDate : List Char → Bool
  | a :: b :: c :: d :: '-' :: _ => isDigit a && isDigit b && isDigit c && isDigit d
  | _ => false

/-- Whether a text starts with a time. -/
def startsTime : List Char → Bool
  | a :: b :: ':' :: _ => isDigit a && isDigit b && valueIn 10 [a, b] ≤ 23
  | _ => false

/-- Passes over the offset of a time zone if there is one. -/
def skipOffset (s : List Char) : Except Error (List Char) :=
  match s with
  | [] => .ok []
  | c :: rest =>
    if c = 'Z' || c = 'z' then .ok rest
    else if c = '+' || c = '-' then do
      let (_, rest) ← field 2 0 23 rest
      let rest ← mark ':' rest
      let (_, rest) ← field 2 0 59 rest
      return rest
    else .ok s

/-- Passes over the time after a date if there is one. -/
def skipTimeOfDay (s : List Char) : Except Error (List Char) :=
  match s with
  | [] => .ok []
  | c :: rest =>
    if (c = 'T' || c = 't' || c = ' ') && startsTime rest then
      match skipTime rest with
      | .error e => .error e
      | .ok rest => skipOffset rest
    else .ok s

/-- Reads a date, a time or both, if the text starts with one. -/
def moment? (s : List Char) : Option (Except Error (List Char)) :=
  if startsDate s then
    some (match skipDate s with
      | .error e => .error e
      | .ok rest => skipTimeOfDay rest)
  else if startsTime s then some (skipTime s)
  else none

/-- Reads a number, a date or a time. -/
def numberOrMoment (s : List Char) : Scan Item :=
  match moment? s with
  | some (.error e) => .error e
  | some (.ok rest) => .ok (.moment (before s rest), rest)
  | none => number s

end Toml

end Retrace
