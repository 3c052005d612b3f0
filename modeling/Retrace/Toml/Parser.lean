import Retrace.Toml.Number
/-!
# Reading TOML documents

A document is a list of statements, one to a line: headers, and keys with their values.  Brackets
within values may be nested to a fixed depth.
-/

namespace Retrace

namespace Toml

/-! ### Values -/

/-- Reads a given word. -/
def word : List Char → List Char → Except Error (List Char)
  | [], s => .ok s
  | c :: text, s =>
    match mark c s with
    | .error e => .error e
    | .ok rest => word text rest

/-- Reads the items of an array after its bracket, in at most so many rounds. -/
def arrayItems (reader : List Char → Scan Item) : Nat → List Char → Scan (List Item)
  | 0, _ => .error .malformed
  | rounds + 1, s =>
    match dropGaps s.length s with
    | ']' :: rest => .ok ([], rest)
    | s =>
      match reader s with
      | .error e => .error e
      | .ok (item, rest) =>
        match dropGaps rest.length rest with
        | ',' :: rest => (arrayItems reader rounds rest).map fun p => (item :: p.1, p.2)
        | ']' :: rest => .ok ([item], rest)
        | _ => .error .malformed

/-- Reads an array after its bracket. -/
def arrayAfter (reader : List Char → Scan Item) (s : List Char) : Scan Item :=
  (arrayItems reader (s.length + 1) s).map fun p => (.array p.1, p.2)

/-- Reads a path of keys and its value. -/
def assignment (reader : List Char → Scan Item) (s : List Char) : Scan (List String × Item) :=
  match keyPath s with
  | .error e => .error e
  | .ok (path, rest) =>
    match mark '=' rest with
    | .error e => .error e
    | .ok rest => (reader (dropSpaces rest)).map fun p => ((path, p.1), p.2)

/-- Reads the assignments of a table in braces, at least one, in at most so many rounds. -/
def pairs (reader : List Char → Scan Item) : Nat → List Char → Scan (List (List String × Item))
  | 0, _ => .error .malformed
  | rounds + 1, s =>
    match assignment reader s with
    | .error e => .error e
    | .ok (pair, rest) =>
      match dropSpaces rest with
      | ',' :: rest => (pairs reader rounds rest).map fun p => (pair :: p.1, p.2)
      | '\x7d' :: rest => .ok ([pair], rest)
      | _ => .error .malformed

/-- Reads a table in braces after its first one. -/
def bracesAfter (reader : List Char → Scan Item) (s : List Char) : Scan Item :=
  match dropSpaces s with
  | '\x7d' :: rest => .ok (.table .braces [], rest)
  | s =>
    match pairs reader (s.length + 1) s with
    | .error e => .error e
    | .ok (list, rest) =>
      (Entries.ofPairs list []).map fun entries => (.table .braces entries, rest)

/-- Reads a value, where `array` and `braces` read what follows an opening bracket. -/
def valueWith (array braces : List Char → Scan Item) : List Char → Scan Item
  | [] => .error .malformed
  | c :: rest =>
    if c = basic.mark then (stringAfter basic rest).map fun p => (.string (String.ofList p.1), p.2)
    else if c = literal.mark then
      (stringAfter literal rest).map fun p => (.string (String.ofList p.1), p.2)
    else if c = '[' then array rest
    else if c = '\x7b' then braces rest
    else if c = 't' then (word "rue".toList rest).map fun rest => (.boolean true, rest)
    else if c = 'f' then (word "alse".toList rest).map fun rest => (.boolean false, rest)
    else numberOrMoment (c :: rest)

/-- Reads a value whose brackets go at most so deep. -/
def value : Nat → List Char → Scan Item
  | 0 => valueWith (fun _ => .error .tooDeep) (fun _ => .error .tooDeep)
  | depth + 1 => valueWith (arrayAfter (value depth)) (bracesAfter (value depth))

/-! ### Statements -/

/-- The statement of a header with the given path. -/
def headerOf (make : List String → String → Statement) (path : List String) :
    Except Error Statement :=
  match path.getLast? with
  | some key => .ok (make path.dropLast key)
  | none => .error .malformed

/-- Reads a header after its opening brackets, up to the end of its line. -/
def headerAfter (make : List String → String → Statement) (closing s : List Char) :
    Except Error (Statement × List Char) := do
  let (path, rest) ← keyPath s
  let rest ← word closing rest
  let rest ← endLine rest
  let statement ← headerOf make path
  return (statement, rest)

/-- Reads the statement on a line that is neither blank nor a comment, up to the end of the line. -/
def statement (s : List Char) : Scan Statement :=
  match s with
  | '[' :: '[' :: rest => headerAfter .nextHeader "]]".toList rest
  | '[' :: rest => headerAfter .header "]".toList rest
  | _ =>
    match assignment (value (depthLimit - 1)) s with
    | .error e => .error e
    | .ok ((path, item), rest) => (endLine rest).map fun rest => (.assignment path item, rest)

/-- Reads statements, in at most so many rounds. -/
def statements : Nat → List Char → Except Error (List Statement)
  | 0, _ => .error .malformed
  | rounds + 1, s =>
    match dropSpaces s with
    | [] => .ok []
    | c :: rest =>
      if c = '#' || c = '\n' || c = '\r' then
        match endLine (c :: rest) with
        | .error e => .error e
        | .ok rest => statements rounds rest
      else
        match statement (c :: rest) with
        | .error e => .error e
        | .ok (statement, rest) =>
          (statements rounds rest).map fun list => statement :: list

/-- A text without the mark that may stand at the start of a file. -/
def dropMark : List Char → List Char
  | '\uFEFF' :: rest => rest
  | s => s

/-- The entries of the document that a text writes. -/
def parse? (text : List Char) : Except Error Entries :=
  let text := dropMark text
  match statements (text.length + 1) text with
  | .error e => .error e
  | .ok list => build list [] []

end Toml

end Retrace
