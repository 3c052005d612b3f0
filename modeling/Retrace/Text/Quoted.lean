import Retrace.Text.Invisible
/-!
# Quoted text

The form in which a text from outside is shown within a message: in quotes, on one line, with an
escape for each character that could not be told apart on a page.
-/

namespace Retrace

namespace Text

/-- The digits of a number in lower-case hexadecimal, without leading zeros. -/
def hexDigits (n : Nat) : List Char :=
  Nat.toDigits 16 n

/-- The escape that gives a character by its code point. -/
def codeEscape (c : Char) : List Char :=
  ['\\', 'u', '\x7b'] ++ hexDigits c.toNat ++ ['\x7d']

/-- One character of a text that is quoted with `quote`. -/
def quotedChar (quote : Char) (c : Char) : List Char :=
  if c = quote then ['\\', c]
  else if c = '\\' then ['\\', '\\']
  else if c = '\n' then ['\\', 'n']
  else if c = '\r' then ['\\', 'r']
  else if c = '\t' then ['\\', 't']
  else if c = '\x00' then ['\\', '0']
  else if isVisible c then [c]
  else codeEscape c

/-- A text in double quotes. -/
def quoted (text : List Char) : List Char :=
  '\x22' :: text.flatMap (quotedChar '\x22') ++ ['\x22']

/-- A single character in single quotes. -/
def quotedSingle (c : Char) : List Char :=
  '\x27' :: quotedChar '\x27' c ++ ['\x27']

end Text

/-- A string in double quotes. -/
def quoted (s : String) : String :=
  String.ofList (Text.quoted s.toList)

/-- A character in single quotes. -/
def quotedSingle (c : Char) : String :=
  String.ofList (Text.quotedSingle c)

end Retrace
