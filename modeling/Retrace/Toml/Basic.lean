/-!
# TOML documents

The values of a TOML document and the tables that its statements build.  A table remembers how it
was made, because that decides which later statements may add to it: a table with a header of its
own is closed to other headers, one made by dotted keys is open to dotted keys only, and one that
was only passed on the way to another may still get its header.
-/

namespace Retrace

namespace Toml

/-- Why a text is no TOML document, or not the one that is asked for. -/
inductive Error
  | malformed
  /-- Brackets or dotted keys that go too deep. -/
  | tooDeep
  /-- A number or a date that does not exist or is too great. -/
  | outOfRange
  /-- A key that was given a value before, or a table that may not be added to. -/
  | duplicate (key : String)
  /-- A key that leads through something that is no table. -/
  | notTable (key : String)
  /-- A value of another type than the one that is asked for. -/
  | wrongType (key : String)
deriving Repr, DecidableEq

/-- The wording of an error. -/
def Error.message : Error → String
  | .malformed => "malformed text"
  | .tooDeep => "nested too deeply"
  | .outOfRange => "value out of range"
  | .duplicate key => "duplicate key `" ++ key ++ "`"
  | .notTable key => "key `" ++ key ++ "` is no table"
  | .wrongType key => "key `" ++ key ++ "` has a value of another type"

/-- How a table was made. -/
inductive Making
  /-- By braces, which nothing can be added to. -/
  | braces
  /-- By a header of its own. -/
  | header
  /-- On the way to the table of a header. -/
  | passed
  /-- By dotted keys. -/
  | dotted
deriving Repr, DecidableEq

/-- What a key stands for. -/
inductive Item
  | string (s : String)
  | integer (n : Int)
  /-- A number that is not whole, as it was written. -/
  | float (text : String)
  | boolean (b : Bool)
  /-- A date, a time or both, as they were written. -/
  | moment (text : String)
  | array (items : List Item)
  | table (making : Making) (entries : List (String × Item))
  /-- The tables of a header in double brackets, one for each time it stands there. -/
  | tables (list : List (List (String × Item)))
deriving Repr

/-- The entries of a table in the order in which they were made. -/
abbrev Entries := List (String × Item)

namespace Entries

/-- What a key stands for. -/
def get? (entries : Entries) (key : String) : Option Item :=
  (entries.find? fun e => e.1 = key).map Prod.snd

/-- Lets a key stand for an item. -/
def put : Entries → String → Item → Entries
  | [], key, item => [(key, item)]
  | e :: rest, key, item => if e.1 = key then (key, item) :: rest else e :: put rest key item

/-- Gives a value to a key at the end of a path of dotted keys.  The tables on the path are made
where they are missing, and the last of them has to be made by dotted keys itself, unless the
path is empty; `isOpen` says so of the table at hand. -/
def assign (item : Item) : Bool → List String → Entries → Except Error Entries
  | _, [], _ => .error .malformed
  | isOpen, [key], entries =>
    if isOpen && (entries.get? key).isNone then .ok (entries.put key item)
    else .error (.duplicate key)
  | _, key :: next :: path, entries =>
    match entries.get? key with
    | none =>
      (assign item true (next :: path) []).map fun inner => entries.put key (.table .dotted inner)
    | some (.table .dotted inner) =>
      (assign item true (next :: path) inner).map fun inner =>
        entries.put key (.table .dotted inner)
    | some (.table .passed inner) =>
      (assign item false (next :: path) inner).map fun inner =>
        entries.put key (.table .passed inner)
    | some (.tables list) =>
      (assign item false (next :: path) (list.getLast?.getD [])).map fun inner =>
        entries.put key (.tables (list.dropLast ++ [inner]))
    | some (.table _ _) => .error (.duplicate key)
    | some _ => .error (.notTable key)

/-- Changes the table at the end of a path of headers.  Tables that are missing on the path are
made, and of the tables of a header in double brackets the last one counts. -/
def change (f : Entries → Except Error Entries) : List String → Entries → Except Error Entries
  | [], entries => f entries
  | key :: path, entries =>
    match entries.get? key with
    | none => (change f path []).map fun inner => entries.put key (.table .passed inner)
    | some (.table .braces _) => .error (.notTable key)
    | some (.table making inner) =>
      (change f path inner).map fun inner => entries.put key (.table making inner)
    | some (.tables list) =>
      (change f path (list.getLast?.getD [])).map fun inner =>
        entries.put key (.tables (list.dropLast ++ [inner]))
    | some _ => .error (.notTable key)

/-- Makes the table of a header, which may have been passed before but not made. -/
def openTable (key : String) (entries : Entries) : Except Error Entries :=
  match entries.get? key with
  | none => .ok (entries.put key (.table .header []))
  | some (.table .passed inner) => .ok (entries.put key (.table .header inner))
  | some _ => .error (.duplicate key)

/-- Makes one more table of a header in double brackets. -/
def openNext (key : String) (entries : Entries) : Except Error Entries :=
  match entries.get? key with
  | none => .ok (entries.put key (.tables [[]]))
  | some (.tables list) => .ok (entries.put key (.tables (list ++ [[]])))
  | some _ => .error (.duplicate key)

/-- The entries of a table in braces. -/
def ofPairs : List (List String × Item) → Entries → Except Error Entries
  | [], entries => .ok entries
  | (path, item) :: rest, entries =>
    match assign item true path entries with
    | .error e => .error e
    | .ok entries => ofPairs rest entries

end Entries

/-- A statement of a document. -/
inductive Statement
  /-- A header, with the part of its path before the last key. -/
  | header (path : List String) (key : String)
  /-- A header in double brackets. -/
  | nextHeader (path : List String) (key : String)
  | assignment (path : List String) (item : Item)
deriving Repr

/-- The entries that statements make, where the statements so far made `entries` and the last
header was `place`. -/
def build : List Statement → List String → Entries → Except Error Entries
  | [], _, entries => .ok entries
  | .header path key :: rest, _, entries =>
    match entries.change (Entries.openTable key) path with
    | .error e => .error e
    | .ok entries => build rest (path ++ [key]) entries
  | .nextHeader path key :: rest, _, entries =>
    match entries.change (Entries.openNext key) path with
    | .error e => .error e
    | .ok entries => build rest (path ++ [key]) entries
  | .assignment path item :: rest, place, entries =>
    match entries.change (Entries.assign item true path) place with
    | .error e => .error e
    | .ok entries => build rest place entries

end Toml

end Retrace
