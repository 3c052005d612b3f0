import Retrace.Dictionary
/-!
# Maps that forget

A map with room for so many entries, each of which expires some time after it was put in.  A new
entry in a full map takes the place of all that have expired or, if none has, of the one that was
not used for the longest time.

The times of each use are given from outside; what the map answers depends on nothing else.

The clock has an end.  A program that asks for a time past it ends there.  The map only notes that
it did (`ExpiringMap.overran`), and goes on as if the clock had no end.
-/

namespace Retrace

/-- A value with the time when it was last used and the time from which on it does not count. -/
structure Entry (α : Type) where
  value : α
  lastUsed : Nat
  expiresAt : Nat
deriving Repr, DecidableEq

/-- Whether an entry still counts. -/
def Entry.isLive {α : Type} (e : Entry α) (now : Nat) : Bool :=
  now < e.expiresAt

/-- A map whose entries expire `ttl` after they were put in, with room for `capacity` of them. -/
structure ExpiringMap (α : Type) where
  capacity : Nat
  ttl : Nat
  entries : Dictionary (Entry α)
  /-- Whether an entry was put in that expires at a time which the clock does not have. -/
  overran : Bool
deriving Repr, DecidableEq

namespace ExpiringMap

variable {α : Type}

/-- The first time, in nanoseconds, that the clock does not have: its seconds are signed numbers
of 64 bits. -/
def clockEnd : Nat := 0x8000000000000000 * 1000000000

/-- The map without entries. -/
def empty (capacity ttl : Nat) : ExpiringMap α := ⟨capacity, ttl, [], false⟩

/-- The number of entries, with those that have expired but are still there. -/
def size (m : ExpiringMap α) : Nat := m.entries.length

/-- The value of a key, and the map after this use.  An entry that has expired is taken out. -/
def get? (m : ExpiringMap α) (now : Nat) (key : String) : Option α × ExpiringMap α :=
  match m.entries.get? key with
  | none => (none, m)
  | some e =>
    if e.isLive now then
      (some e.value, { m with entries := m.entries.put key { e with lastUsed := now } })
    else (none, { m with entries := m.entries.remove key })

/-- The map without what has expired. -/
def dropExpired (m : ExpiringMap α) (now : Nat) : ExpiringMap α :=
  { m with entries := m.entries.filter fun p => p.2.isLive now }

/-- The key of the entry that was not used for the longest time, and when it was used. -/
def oldest? : Dictionary (Entry α) → Option (String × Nat)
  | [] => none
  | (key, e) :: rest =>
    match oldest? rest with
    | some (other, time) => if time < e.lastUsed then some (other, time) else some (key, e.lastUsed)
    | none => some (key, e.lastUsed)

/-- The map without the entry that was not used for the longest time. -/
def dropOldest (m : ExpiringMap α) : ExpiringMap α :=
  match oldest? m.entries with
  | some (key, _) => { m with entries := m.entries.remove key }
  | none => m

/-- The map with room for one more entry. -/
def makeRoom (m : ExpiringMap α) (now : Nat) : ExpiringMap α :=
  let m := m.dropExpired now
  if m.capacity ≤ m.size then m.dropOldest else m

/-- Whether room has to be made before a key is given a value. -/
def lacksRoom (m : ExpiringMap α) (key : String) : Bool :=
  !m.entries.has key && m.capacity ≤ m.size

/-- Puts a value in at the time `now`, once room was made for it at the time `roomAt` if there was
none.  A map without any room takes none. -/
def insert (m : ExpiringMap α) (roomAt now : Nat) (key : String) (value : α) : ExpiringMap α :=
  if m.capacity = 0 then m
  else
    let m := if m.lacksRoom key then m.makeRoom roomAt else m
    { m with
      entries := m.entries.put key ⟨value, now, now + m.ttl⟩
      overran := m.overran || clockEnd ≤ now + m.ttl }

end ExpiringMap

end Retrace
