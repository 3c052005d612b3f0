import Retrace.Text.Quoted
/-!
# Writing JSON

Flat objects of texts and whole numbers, and lists of such objects, in two layouts: compact without
any blanks, and indented by two blanks a level.
-/

namespace Retrace

namespace Json

/-- The value of a member. -/
inductive Scalar
  | text (s : String)
  | number (n : Int)
deriving Repr, DecidableEq

/-- The members of an object in the order in which they are written. -/
abbrev Members := List (String × Scalar)

/-- The member for a text; a missing text has none. -/
def textMember (name : String) : Option String → Members
  | none => []
  | some s => [(name, .text s)]

/-- The member for a number; a missing number has none. -/
def numberMember (name : String) : Option Nat → Members
  | none => []
  | some n => [(name, .number n)]

/-- Where the blanks of a text go. -/
inductive Layout
  | compact
  | indented
deriving Repr, DecidableEq

/-- One character within a string. -/
def escapedChar (c : Char) : List Char :=
  if c = '\x22' then ['\\', '\x22']
  else if c = '\\' then ['\\', '\\']
  else if c = '\x08' then ['\\', 'b']
  else if c = '\x0C' then ['\\', 'f']
  else if c = '\n' then ['\\', 'n']
  else if c = '\r' then ['\\', 'r']
  else if c = '\t' then ['\\', 't']
  else if c.toNat < 0x20 then
    ['\\', 'u', '0', '0'] ++ (if c.toNat < 0x10 then ['0'] else ['1']) ++
      Text.hexDigits (c.toNat % 16)
  else [c]

/-- A string with its quotes. -/
def stringText (s : String) : List Char :=
  '\x22' :: s.toList.flatMap escapedChar ++ ['\x22']

/-- The text of a scalar. -/
def Scalar.chars : Scalar → List Char
  | .text s => stringText s
  | .number n => (toString n).toList

/-- The blanks in front of an entry at a level. -/
def Layout.newline (layout : Layout) (level : Nat) : List Char :=
  match layout with
  | .compact => []
  | .indented => '\n' :: List.replicate (2 * level) ' '

/-- The text between a key and its value. -/
def Layout.colon : Layout → List Char
  | .compact => [':']
  | .indented => [':', ' ']

/-- The text of a member. -/
def Layout.member (layout : Layout) (m : String × Scalar) : List Char :=
  stringText m.1 ++ layout.colon ++ m.2.chars

/-- Entries, each on a line of its own where the layout has lines. -/
def Layout.entries (layout : Layout) (level : Nat) : List (List Char) → List Char
  | [] => []
  | [entry] => layout.newline level ++ entry
  | entry :: more => layout.newline level ++ entry ++ [','] ++ layout.entries level more

/-- Entries in brackets; without entries the brackets stand together. -/
def Layout.bracketed (layout : Layout) (level : Nat) (opening closing : Char)
    (entries : List (List Char)) : List Char :=
  if entries.isEmpty then [opening, closing]
  else opening :: layout.entries (level + 1) entries ++ layout.newline level ++ [closing]

/-- The text of an object. -/
def Layout.object (layout : Layout) (level : Nat) (members : Members) : List Char :=
  layout.bracketed level '\x7b' '\x7d' (members.map layout.member)

/-- The text of a list of objects. -/
def Layout.objects (layout : Layout) (list : List Members) : List Char :=
  layout.bracketed 0 '[' ']' (list.map (layout.object 1))

end Json

end Retrace
