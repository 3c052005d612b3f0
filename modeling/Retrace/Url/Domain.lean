import Retrace.Url.Label
import Retrace.Url.Punycode
/-!
# Domain names

The form in which a domain name is compared and asked for: in lower case, with each label that is
not ASCII in its ASCII form.
-/

namespace Retrace

namespace Url

namespace Domain

/-- The ASCII characters that a domain name may not have. -/
def isForbidden (c : Char) : Bool :=
  c.toNat ≤ 0x20 || c.toNat = 0x7F || "#%/:<>?@[\\]^|".toList.contains c

/-- A domain name in lower case, composed and with plain full stops. -/
def fold (name : List Char) : List Char :=
  if name.all Punycode.isAscii then name.map Char.toLower
  else Text.compose (name.flatMap Label.fold)

theorem fold_of_ascii {name : List Char} (h : name.all Punycode.isAscii = true) :
    fold name = name.map Char.toLower := by
  simp [fold, h]

/-- A label as it is read and as it is asked for. -/
structure Form where
  letters : List Char
  ascii : List Char
deriving Repr, DecidableEq

/-- The most characters that a label may have, unless it is in ASCII. -/
def longestLabel : Nat := 1000

/-- The forms of a label in lower case.  A label that looks like an ASCII form has to be one. -/
def forms? (label : List Char) : Option Form :=
  match Text.after? Label.asciiMark label with
  | some form =>
    match Punycode.decode? form with
    | some letters =>
      if letters.any (fun c => !Punycode.isAscii c) && Label.isWellFormed letters &&
          Punycode.encode letters = form then some ⟨letters, label⟩
      else none
    | none => none
  | none =>
    if label.all Punycode.isAscii then some ⟨label, label⟩
    else if label.length ≤ longestLabel && Label.isWellFormed label then
      some ⟨label, Label.asciiMark ++ Punycode.encode label⟩
    else none

/-- Whether the labels of a name can be read in one way only. -/
def isReadable (forms : List Form) : Bool :=
  !forms.any (fun f => Label.hasRightToLeft f.letters) ||
    forms.all fun f => Label.runsOneWay f.letters

/-- The ASCII form of a domain name. -/
def toAscii? (name : List Char) : Option (List Char) :=
  let name := fold name
  if name.any isForbidden then none
  else
    match (Text.splitOn '.' name).mapM forms? with
    | some forms =>
      if isReadable forms then some (Text.joinWith ['.'] (forms.map Form.ascii)) else none
    | none => none

end Domain

end Url

end Retrace
