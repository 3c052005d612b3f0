import Retrace.Json.Scan
/-!
# Values that are passed over

A member of an object that nothing asks for has to be well formed but is not read.  Its brackets
are kept on a stack, so that it may be nested as deeply as it likes.
-/

namespace Retrace

namespace Json

/-- Passes over the rest of an escape. -/
def skipEscape : Bytes → Except Fault Bytes
  | [] => .error (.here .eofInString [])
  | b :: rest =>
    if (letterEscape? b).isSome then .ok rest
    else if b = 0x75 then (hexFour rest).map Prod.snd
    else .error (.here .invalidEscape rest)

/-- Passes over a string after its first quote, in at most as many rounds as there are bytes. -/
def skipStringBody : Bytes → Bytes → Except Fault Bytes
  | _, [] => .error (.here .eofInString [])
  | [], rest => .error (.here .eofInString rest)
  | _ :: rounds, b :: rest =>
    if b = quote then .ok rest
    else if b = backslash then
      match skipEscape rest with
      | .error f => .error f
      | .ok rest => skipStringBody rounds rest
    else if b < 0x20 then .error (.here .controlCharacter (b :: rest))
    else skipStringBody rounds rest

/-- Passes over a string after its first quote. -/
def skipString (s : Bytes) : Except Fault Bytes :=
  skipStringBody s s

/-- Passes over an exponent after its mark. -/
def skipExponent (s : Bytes) : Except Fault Bytes :=
  let s :=
    match s with
    | b :: rest => if b = plus || b = minus then rest else s
    | [] => s
  match s with
  | [] => .error (.here .invalidNumber [])
  | b :: rest =>
    if isDigit b then .ok (rest.dropWhile isDigit) else .error (.here .invalidNumber rest)

/-- Passes over an exponent if there is one. -/
def skipExponentPart (s : Bytes) : Except Fault Bytes :=
  match s with
  | b :: rest => if isExponentMark b then skipExponent rest else .ok s
  | [] => .ok s

/-- Passes over what may follow the whole part of a number. -/
def skipAfterWhole (s : Bytes) : Except Fault Bytes :=
  match s with
  | b :: rest =>
    if b = point then
      let after := rest.dropWhile isDigit
      if after.length = rest.length then .error (.ahead .invalidNumber after)
      else skipExponentPart after
    else skipExponentPart s
  | [] => .ok s

/-- Passes over a number after its sign. -/
def skipNumber : Bytes → Except Fault Bytes
  | [] => .error (.here .invalidNumber [])
  | b :: rest =>
    if b = 0x30 then
      match rest with
      | next :: _ =>
        if isDigit next then .error (.ahead .invalidNumber rest) else skipAfterWhole rest
      | [] => .ok rest
    else if isDigit b then skipAfterWhole (rest.dropWhile isDigit)
    else .error (.here .invalidNumber rest)

/-- A bracket that is open. -/
inductive Bracket
  | list
  | object
deriving Repr, DecidableEq

/-- The byte that closes a bracket. -/
def Bracket.close : Bracket → UInt8
  | .list => closeList
  | .object => closeObject

/-- What is wrong when the text ends within a bracket. -/
def Bracket.eof : Bracket → Cause
  | .list => .eofInList
  | .object => .eofInObject

/-- What is wrong when something else follows a value in a bracket. -/
def Bracket.commaOrEnd : Bracket → Cause
  | .list => .expectedListCommaOrEnd
  | .object => .expectedObjectCommaOrEnd

/-- What is to be passed over next within a bracket. -/
inductive Next
  /-- The value of a member. -/
  | value
  /-- What stands right after the opening bracket. -/
  | opened
  /-- What follows a value. -/
  | closed
deriving Repr, DecidableEq

/-- Passes over a value that is no list and no object, whose first byte is `b`. -/
def skipScalar (b : UInt8) (rest : Bytes) : Except Fault Bytes :=
  if b = 0x6E then word nullTail rest
  else if b = 0x74 then word trueTail rest
  else if b = 0x66 then word falseTail rest
  else if b = minus then skipNumber rest
  else if isDigit b then skipNumber (b :: rest)
  else if b = quote then skipString rest
  else .error (.ahead .expectedValue (b :: rest))

/-- Passes over a key with its colon; `s` starts with no blank. -/
def skipKey : Bytes → Except Fault Bytes
  | [] => .error (.ahead .eofInObject [])
  | b :: rest =>
    if b = quote then
      match skipString rest with
      | .error f => .error f
      | .ok rest =>
        match skipBlank rest with
        | [] => .error (.ahead .eofInObject [])
        | c :: rest => if c = colon then .ok rest else .error (.ahead .expectedColon (c :: rest))
    else .error (.ahead .keyNotString (b :: rest))

/-- Passes over the first byte of a value, or all of one that is no list and no object: what comes
next, the brackets that are open then, and what follows. -/
def skipStart (outer : List Bracket) (s : Bytes) : Except Fault (Next × List Bracket × Bytes) :=
  match skipBlank s with
  | [] => .error (.ahead .eofInValue [])
  | b :: rest =>
    if b = openList then .ok (.opened, .list :: outer, rest)
    else if b = openObject then .ok (.opened, .object :: outer, rest)
    else (skipScalar b rest).map fun rest => (.closed, outer, rest)

/-- Passes over the start of an entry of a bracket. -/
def skipEntry (bracket : Bracket) (outer : List Bracket) (s : Bytes) :
    Except Fault (Next × List Bracket × Bytes) :=
  match bracket with
  | .list => skipStart (bracket :: outer) s
  | .object => (skipKey (skipBlank s)).map fun rest => (.value, bracket :: outer, rest)

/-- Passes over what is next within a bracket. -/
def skipNext (next : Next) (bracket : Bracket) (outer : List Bracket) (s : Bytes) :
    Except Fault (Next × List Bracket × Bytes) :=
  match next with
  | .value => skipStart (bracket :: outer) s
  | .opened =>
    match skipBlank s with
    | [] => .error (.ahead bracket.eof [])
    | b :: rest =>
      if b = bracket.close then .ok (.closed, outer, rest) else skipEntry bracket outer (b :: rest)
  | .closed =>
    match skipBlank s with
    | [] => .error (.ahead bracket.eof [])
    | b :: rest =>
      if b = comma then skipEntry bracket outer rest
      else if b = bracket.close then .ok (.closed, outer, rest)
      else .error (.ahead bracket.commaOrEnd (b :: rest))

/-- Passes over what is next and all that is open.  Each round reads a byte, so that as many rounds
as there are bytes are enough. -/
def skipRounds : Bytes → Next × List Bracket × Bytes → Except Fault Bytes
  | _, (_, [], s) => .ok s
  | [], (_, _ :: _, s) => .error (.ahead .eofInValue s)
  | _ :: rounds, (next, bracket :: outer, s) =>
    match skipNext next bracket outer s with
    | .error f => .error f
    | .ok state => skipRounds rounds state

/-- Passes over a value. -/
def skipValue (s : Bytes) : Except Fault Bytes :=
  match skipStart [] s with
  | .error f => .error f
  | .ok state => skipRounds s state

end Json

end Retrace
