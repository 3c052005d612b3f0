import Retrace.Toml.Basic
/-!
# The small parts of a TOML document

Blanks, line ends, comments, strings and keys.
-/

namespace Retrace

namespace Toml

/-- What a reader makes of the front of a text: what it read and the text after it. -/
abbrev Scan (α : Type) := Except Error (α × List Char)

/-! ### Blanks and lines -/

/-- Whether a character is a blank within a line. -/
def isSpace (c : Char) : Bool :=
  c = ' ' || c = '\t'

/-- Whether a character may stand in a comment or a string as it is. -/
def isPlain (c : Char) : Bool :=
  c = '\t' || (0x20 ≤ c.toNat && c.toNat ≠ 0x7F)

/-- A text without the blanks at its front. -/
def dropSpaces (s : List Char) : List Char :=
  s.dropWhile isSpace

/-- What follows a line end at the front. -/
def newline? : List Char → Option (List Char)
  | '\n' :: rest => some rest
  | '\r' :: '\n' :: rest => some rest
  | _ => none

/-- A text without a comment at its front. -/
def dropComment : List Char → List Char
  | '#' :: rest => rest.dropWhile isPlain
  | s => s

/-- What follows the line, of which only blanks and a comment may be left. -/
def endLine (s : List Char) : Except Error (List Char) :=
  match dropComment (dropSpaces s) with
  | [] => .ok []
  | s =>
    match newline? s with
    | some rest => .ok rest
    | none => .error .malformed

/-- A text without the blanks and line ends at its front. -/
def dropGap : List Char → List Char
  | ' ' :: rest => dropGap rest
  | '\t' :: rest => dropGap rest
  | '\n' :: rest => dropGap rest
  | '\r' :: '\n' :: rest => dropGap rest
  | s => s

/-- A text without the blanks, line ends and whole comments at its front, of which at most so many
are comments. -/
def dropGaps : Nat → List Char → List Char
  | 0, s => dropGap s
  | rounds + 1, s =>
    match dropGap s with
    | '#' :: rest =>
      match newline? (rest.dropWhile isPlain) with
      | some rest => dropGaps rounds rest
      | none => '#' :: rest
    | s => s

/-! ### Strings -/

/-- How strings in one kind of quotes are written. -/
structure Quotes where
  mark : Char
  /-- Whether a backslash starts an escape. -/
  escapes : Bool
deriving Repr, DecidableEq

/-- Double quotes. -/
def basic : Quotes := ⟨'\x22', true⟩

/-- Single quotes. -/
def literal : Quotes := ⟨'\x27', false⟩

/-- The value of a hexadecimal digit. -/
def hexDigit? (c : Char) : Option Nat :=
  if '0' ≤ c && c ≤ '9' then some (c.toNat - 48)
  else if 'a' ≤ c && c ≤ 'f' then some (c.toNat - 87)
  else if 'A' ≤ c && c ≤ 'F' then some (c.toNat - 55)
  else none

/-- The value of hexadecimal digits. -/
def hexValue? : Nat → List Char → Option Nat
  | value, [] => some value
  | value, c :: rest => (hexDigit? c).bind fun d => hexValue? (value * 16 + d) rest

/-- The character whose code point is written in so many digits. -/
def codePoint? (digits : Nat) (s : List Char) : Option (Char × List Char) :=
  if s.length < digits then none
  else
    match hexValue? 0 (s.take digits) with
    | none => none
    | some code => if code.isValidChar then some (Char.ofNat code, s.drop digits) else none

/-- The character of an escape after its backslash. -/
def escape? : List Char → Option (Char × List Char)
  | 'b' :: rest => some ('\x08', rest)
  | 't' :: rest => some ('\t', rest)
  | 'n' :: rest => some ('\n', rest)
  | 'f' :: rest => some ('\x0C', rest)
  | 'r' :: rest => some ('\r', rest)
  | '\x22' :: rest => some ('\x22', rest)
  | '\\' :: rest => some ('\\', rest)
  | 'u' :: rest => codePoint? 4 rest
  | 'U' :: rest => codePoint? 8 rest
  | _ => none

/-- Reads a string on one line after its first quote, in at most so many rounds. -/
def lineBody (quotes : Quotes) : Nat → List Char → Scan (List Char)
  | 0, _ => .error .malformed
  | _, [] => .error .malformed
  | rounds + 1, c :: rest =>
    if c = quotes.mark then .ok ([], rest)
    else if c = '\\' && quotes.escapes then
      match escape? rest with
      | none => .error .malformed
      | some (c, rest) => (lineBody quotes rounds rest).map fun p => (c :: p.1, p.2)
    else if isPlain c then (lineBody quotes rounds rest).map fun p => (c :: p.1, p.2)
    else .error .malformed

/-- The end of a string in triple quotes: up to two quotes that belong to it, and what follows. -/
def tripleEnd? (quotes : Quotes) (s : List Char) : Option (List Char × List Char) :=
  let count := min 5 (s.takeWhile (· = quotes.mark)).length
  if count < 3 then none else some (List.replicate (count - 3) quotes.mark, s.drop count)

/-- Reads a string after its first triple quotes, in at most so many rounds.  A backslash at the
end of a line joins it to the next text. -/
def tripleBody (quotes : Quotes) : Nat → List Char → Scan (List Char)
  | 0, _ => .error .malformed
  | rounds + 1, s =>
    match tripleEnd? quotes s with
    | some done => .ok done
    | none =>
      match s with
      | [] => .error .malformed
      | c :: rest =>
        if c = '\\' && quotes.escapes then
          match newline? (dropSpaces rest) with
          | some rest => tripleBody quotes rounds (dropGap rest)
          | none =>
            match escape? rest with
            | none => .error .malformed
            | some (c, rest) => (tripleBody quotes rounds rest).map fun p => (c :: p.1, p.2)
        else if isPlain c then (tripleBody quotes rounds rest).map fun p => (c :: p.1, p.2)
        else
          match newline? s with
          | none => .error .malformed
          | some rest => (tripleBody quotes rounds rest).map fun p => ('\n' :: p.1, p.2)

/-- Reads a string on one line after its first quote. -/
def lineString (quotes : Quotes) (rest : List Char) : Scan (List Char) :=
  lineBody quotes (rest.length + 1) rest

/-- Reads a string after its first quote.  A line end right after triple quotes does not belong to
it. -/
def stringAfter (quotes : Quotes) (rest : List Char) : Scan (List Char) :=
  match rest with
  | a :: b :: text =>
    if a = quotes.mark && b = quotes.mark then
      tripleBody quotes (text.length + 1) ((newline? text).getD text)
    else lineString quotes rest
  | _ => lineString quotes rest

/-! ### Keys -/

/-- Whether a character may stand in a key without quotes. -/
def isBare (c : Char) : Bool :=
  c.isAlphanum || c = '-' || c = '_'

/-- Reads a key without dots. -/
def simpleKey (s : List Char) : Scan String :=
  match s with
  | [] => .error .malformed
  | c :: rest =>
    if c = basic.mark then (lineString basic rest).map fun p => (String.ofList p.1, p.2)
    else if c = literal.mark then (lineString literal rest).map fun p => (String.ofList p.1, p.2)
    else if isBare c then .ok (String.ofList (s.takeWhile isBare), s.dropWhile isBare)
    else .error .malformed

/-- Reads keys with dots between them and blanks around each, in at most so many rounds. -/
def keys : Nat → List Char → Scan (List String)
  | 0, _ => .error .malformed
  | rounds + 1, s =>
    match simpleKey (dropSpaces s) with
    | .error e => .error e
    | .ok (key, rest) =>
      match dropSpaces rest with
      | '.' :: rest => (keys rounds rest).map fun p => (key :: p.1, p.2)
      | rest => .ok ([key], rest)

/-- How deep brackets and dotted keys may go, less one. -/
def depthLimit : Nat := 80

/-- Reads a path of keys. -/
def keyPath (s : List Char) : Scan (List String) :=
  match keys (s.length + 1) s with
  | .error e => .error e
  | .ok (path, rest) => if path.length < depthLimit then .ok (path, rest) else .error .tooDeep

end Toml

end Retrace
