import Retrace.Json.Reader
/-!
# Records in JSON

A record is written as an object with a member for each field, in any order, or as a list of its
fields in their declared order.  Members of other names are passed over; a member that comes twice
is an error.

A record is read into a draft, in which each field may still be missing, and the draft is turned
into the value at the end.
-/

namespace Retrace

namespace Json

/-- A field of a record that is read into drafts of type `δ`. -/
structure Field (δ : Type) where
  name : String
  /-- Whether the draft has the field. -/
  isSet : δ → Bool
  /-- Reads the field into the draft. -/
  read : δ → Reader δ
  /-- Whether a list may end before the field. -/
  mayLack : Bool

/-- A field whose value is put into the draft by `set`. -/
def Field.of {δ α : Type} (name : String) (reader : Reader α) (isSet : δ → Bool)
    (set : δ → α → δ) (mayLack : Bool) : Field δ :=
  ⟨name, isSet, fun draft => reader.map (set draft), mayLack⟩

/-- How records with drafts of type `δ` and values of type `α` are written. -/
structure Record (δ α : Type) where
  /-- The name that messages use. -/
  name : String
  fields : List (Field δ)
  /-- The draft without any field. -/
  blank : δ
  /-- The value of a draft, or the name of the first field that it lacks. -/
  finish : δ → Except String α

/-- Why the body of a record was given up. -/
inductive Halt
  | fault (f : Fault)
  /-- Something wrong with the record as a whole, found with so many bytes still to be read.  It is
  reported at the end of the record. -/
  | problem (cause : Cause) (rest : Bytes)

/-- What messages say is expected. -/
def Record.expected {δ α : Type} (record : Record δ α) : String :=
  "struct " ++ record.name

/-- Reads the end of a list: where reading stands after it, and what is wrong with it. -/
def endList (s : Bytes) : Bytes × Option Cause :=
  match skipBlank s with
  | [] => ([], some .eofInList)
  | b :: rest =>
    if b = closeList then (rest, none)
    else if b = comma then
      match skipBlank rest with
      | [] => ([], some .trailingCharacters)
      | c :: rest =>
        (c :: rest, some (if c = closeList then .trailingComma else .trailingCharacters))
    else (b :: rest, some .trailingCharacters)

/-- Reads the end of an object: where reading stands after it, and what is wrong with it. -/
def endObject (s : Bytes) : Bytes × Option Cause :=
  match skipBlank s with
  | [] => ([], some .eofInObject)
  | b :: rest =>
    if b = closeObject then (rest, none)
    else (b :: rest, some (if b = comma then .trailingComma else .trailingCharacters))

/-- The record whose body has the given outcome, once its end is read. -/
def conclude {α : Type} (close : Bytes → Bytes × Option Cause) :
    Except Halt (α × Bytes) → Except Fault (α × Bytes)
  | .error (.fault f) => .error f
  | .error (.problem cause rest) => .error (.here cause (close rest).1)
  | .ok (value, rest) =>
    match close rest with
    | (rest, none) => .ok (value, rest)
    | (rest, some cause) => .error (.ahead cause rest)

/-- Reads fields from the elements of a list; `index` counts the fields before them, and `first`
says whether no element was read yet. -/
def Record.readElements {δ α : Type} (record : Record δ α) (index : Nat) (first : Bool) :
    List (Field δ) → δ → Bytes → Except Halt (δ × Bytes)
  | [], draft, s => .ok (draft, s)
  | field :: fields, draft, s =>
    match nextElement first s with
    | .error f => .error (.fault f)
    | .ok (.stop rest) =>
      if field.mayLack then record.readElements (index + 1) first fields draft rest
      else
        .error (.problem (.invalidLength index
          (record.expected ++ s!" with {record.fields.length} elements")) rest)
    | .ok (.more rest) =>
      match field.read draft rest with
      | .error f => .error (.fault f)
      | .ok (draft, rest) => record.readElements (index + 1) false fields draft rest

/-- Looks for the next member of an object and reads its key. -/
def nextKey (first : Bool) (s : Bytes) : Except Fault (Option (List Char) × Bytes) :=
  let key (rest : Bytes) : Except Fault (Option (List Char) × Bytes) :=
    (string rest).map fun p => (some p.1, p.2)
  match skipBlank s with
  | [] => .error (.ahead .eofInObject [])
  | b :: rest =>
    if b = closeObject then .ok (none, b :: rest)
    else if first then
      if b = quote then key rest else .error (.ahead .keyNotString (b :: rest))
    else if b = comma then
      match skipBlank rest with
      | [] => .error (.ahead .eofInValue [])
      | c :: rest =>
        if c = quote then key rest
        else if c = closeObject then .error (.ahead .trailingComma (c :: rest))
        else .error (.ahead .keyNotString (c :: rest))
    else .error (.ahead .expectedObjectCommaOrEnd (b :: rest))

/-- Reads the colon of a member. -/
def readColon (s : Bytes) : Except Fault Bytes :=
  match skipBlank s with
  | [] => .error (.ahead .eofInObject [])
  | b :: rest => if b = colon then .ok rest else .error (.ahead .expectedColon (b :: rest))

/-- Reads the value of a member into the draft, or passes over it. -/
def Record.readMember {δ α : Type} (record : Record δ α) (key : List Char) (draft : δ)
    (s : Bytes) : Except Halt (δ × Bytes) :=
  match record.fields.find? fun field => field.name.toList = key with
  | some field =>
    if field.isSet draft then .error (.problem (.duplicateField field.name) s)
    else
      match readColon s with
      | .error f => .error (.fault f)
      | .ok rest =>
        match field.read draft rest with
        | .error f => .error (.fault f)
        | .ok result => .ok result
  | none =>
    match readColon s with
    | .error f => .error (.fault f)
    | .ok rest =>
      match skipValue rest with
      | .error f => .error (.fault f)
      | .ok rest => .ok (draft, rest)

/-- Reads the members of an object into the draft, in at most as many rounds as there are bytes in
`rounds`. -/
def Record.readMembers {δ α : Type} (record : Record δ α) :
    Bytes → Bool → δ → Bytes → Except Halt (δ × Bytes)
  | [], _, _, s => .error (.fault (.ahead .eofInObject s))
  | _ :: rounds, first, draft, s =>
    match nextKey first s with
    | .error f => .error (.fault f)
    | .ok (none, rest) => .ok (draft, rest)
    | .ok (some key, rest) =>
      match record.readMember key draft rest with
      | .error halt => .error halt
      | .ok (draft, rest) => record.readMembers rounds false draft rest

/-- The value of a draft that was read up to `rest`. -/
def Record.complete {δ α : Type} (record : Record δ α) :
    Except Halt (δ × Bytes) → Except Halt (α × Bytes)
  | .error halt => .error halt
  | .ok (draft, rest) =>
    match record.finish draft with
    | .ok value => .ok (value, rest)
    | .error name => .error (.problem (.missingField name) rest)

/-- Reads a record. -/
def Record.reader {δ α : Type} (record : Record δ α) : Reader α := fun s =>
  match skipBlank s with
  | [] => .error (.ahead .eofInValue [])
  | b :: rest =>
    if b = openList then
      conclude endList
        (record.complete (record.readElements 0 true record.fields record.blank rest))
    else if b = openObject then
      conclude endObject
        (record.complete (record.readMembers (b :: rest) true record.blank rest))
    else .error (mismatch record.expected (b :: rest))

/-- The value of a field that has to be there. -/
def required {α : Type} (name : String) : Option α → Except String α
  | some value => .ok value
  | none => .error name

end Json

end Retrace
