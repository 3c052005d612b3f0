import Retrace.Json.Skip
/-!
# Reading JSON by type

A reader knows what kind of value it wants and reads it straight from the bytes, so that the first
thing wrong with a text decides, whether that is its form or the kind of one of its values.
-/

namespace Retrace

namespace Json

/-- A reader of values of type `α`: the value at the front of the bytes and the bytes after it. -/
def Reader (α : Type) : Type := Bytes → Except Fault (α × Bytes)

/-- The same value seen through a function. -/
def Reader.map {α β : Type} (f : α → β) (reader : Reader α) : Reader β :=
  fun s => (reader s).map fun p => (f p.1, p.2)

/-- The fault of a value that is not of the kind that is expected.  The words, numbers and strings
that stand in its place are read, and may have faults of their own; `s` starts with no blank. -/
def mismatch (expected : String) (s : Bytes) : Fault :=
  let wrong (found : Found) (rest : Bytes) : Fault := .here (.invalidType found expected) rest
  let after (found : Found) : Except Fault Bytes → Fault
    | .ok rest => wrong found rest
    | .error f => f
  let numeral : Except Fault (Number × Bytes) → Fault
    | .ok (n, rest) => wrong n.found rest
    | .error f => f
  match s with
  | [] => .ahead .expectedValue []
  | b :: rest =>
    if b = 0x6E then after .null (word nullTail rest)
    else if b = 0x74 then after (.boolean true) (word trueTail rest)
    else if b = 0x66 then after (.boolean false) (word falseTail rest)
    else if b = minus then numeral (number false rest)
    else if isDigit b then numeral (number true s)
    else if b = quote then
      match string rest with
      | .ok (text, rest) => wrong (.string text) rest
      | .error f => f
    else if b = openList then wrong .sequence s
    else if b = openObject then wrong .map s
    else .ahead .expectedValue s

/-- A number as one of the natural numbers up to `limit`. -/
def Number.upTo (limit : Nat) (expected : String) : Number → Except Cause Nat
  | .natural n => if n ≤ limit then .ok n else .error (.invalidValue n expected)
  | .negative n => .error (.invalidValue (-(n : Int)) expected)
  | .floating f => .error (.invalidType (.floating f.toBits) expected)

/-- Reads a natural number up to `limit`. -/
def Reader.natural (limit : Nat) (expected : String) : Reader Nat := fun s =>
  match skipBlank s with
  | [] => .error (.ahead .eofInValue [])
  | b :: rest =>
    let numeral (read : Except Fault (Number × Bytes)) : Except Fault (Nat × Bytes) :=
      match read with
      | .error f => .error f
      | .ok (n, rest) =>
        match n.upTo limit expected with
        | .ok value => .ok (value, rest)
        | .error cause => .error (.here cause rest)
    if b = minus then numeral (number false rest)
    else if isDigit b then numeral (number true (b :: rest))
    else .error (mismatch expected (b :: rest))

/-- Reads a number of thirty-two bits. -/
def Reader.unsigned32 : Reader Nat := Reader.natural Integer.maxUnsigned32 "u32"

/-- Reads a number of sixty-four bits. -/
def Reader.unsigned64 : Reader Nat := Reader.natural Integer.maxUnsigned64 "u64"

/-- Reads a count of things in memory, which has sixty-four bits. -/
def Reader.count : Reader Nat := Reader.natural Integer.maxUnsigned64 "usize"

/-- Reads a string. -/
def Reader.text : Reader String := fun s =>
  match skipBlank s with
  | [] => .error (.ahead .eofInValue [])
  | b :: rest =>
    if b = quote then (string rest).map fun p => (String.ofList p.1, p.2)
    else .error (mismatch "a string" (b :: rest))

/-- Reads a value or `null`. -/
def Reader.optional {α : Type} (reader : Reader α) : Reader (Option α) := fun s =>
  match skipBlank s with
  | [] => (reader []).map fun p => (some p.1, p.2)
  | b :: rest =>
    if b = 0x6E then (word nullTail rest).map fun rest => (none, rest)
    else (reader (b :: rest)).map fun p => (some p.1, p.2)

/-- What stands before the next element of a list. -/
inductive Ahead
  /-- The closing bracket, still to be read. -/
  | stop (rest : Bytes)
  /-- An element. -/
  | more (rest : Bytes)

/-- Looks for the next element of a list. -/
def nextElement (first : Bool) (s : Bytes) : Except Fault Ahead :=
  match skipBlank s with
  | [] => .error (.ahead .eofInList [])
  | b :: rest =>
    if b = closeList then .ok (.stop (b :: rest))
    else if first then .ok (.more (b :: rest))
    else if b = comma then
      match skipBlank rest with
      | [] => .error (.ahead .eofInValue [])
      | c :: rest =>
        if c = closeList then .error (.ahead .trailingComma (c :: rest))
        else .ok (.more (c :: rest))
    else .error (.ahead .expectedListCommaOrEnd (b :: rest))

/-- Reads the elements of a list and its closing bracket, in at most as many rounds as there are
bytes in `rounds`. -/
def elements {α : Type} (reader : Reader α) : Bytes → Bool → Bytes → Except Fault (List α × Bytes)
  | [], _, s => .error (.ahead .eofInList s)
  | _ :: rounds, first, s =>
    match nextElement first s with
    | .error f => .error f
    | .ok (.stop rest) => .ok ([], rest.drop 1)
    | .ok (.more rest) =>
      match reader rest with
      | .error f => .error f
      | .ok (value, rest) =>
        (elements reader rounds false rest).map fun p => (value :: p.1, p.2)

/-- Reads a list. -/
def Reader.list {α : Type} (reader : Reader α) : Reader (List α) := fun s =>
  match skipBlank s with
  | [] => .error (.ahead .eofInValue [])
  | b :: rest =>
    if b = openList then elements reader (b :: rest) true rest
    else .error (mismatch "a sequence" (b :: rest))

/-- The value that a whole text writes; only blanks may follow it. -/
def read {α : Type} (reader : Reader α) (text : Bytes) : Except Error α :=
  match reader text with
  | .error f => .error (f.inText text)
  | .ok (value, rest) =>
    match skipBlank rest with
    | [] => .ok value
    | more => .error ((Fault.ahead .trailingCharacters more).inText text)

end Json

end Retrace
