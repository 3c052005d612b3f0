import Retrace.Tracer
/-!
# The world around a tracer

A disk, a network, artifacts held in memory, an object store and a clock, and the services that they
offer.  The world remembers what was asked of it.
-/

namespace Retrace

/-- What a tracer may meet with. -/
structure World where
  disk : Disk
  network : Network
  /-- What is fetched from memory, by location. -/
  artifacts : Dictionary (Except Fetch.Error Bytes)
  store : Store
  /-- How often the time was read. -/
  clock : Nat
  /-- The locations that were asked for in memory and the URLs that reached the network. -/
  asked : List String
  /-- The paths that were read from disk. -/
  opened : List String

namespace World

/-- The world with a disk and a network and nothing else. -/
def make (disk : Disk) (network : Network) : World :=
  ⟨disk, network, [], .empty, 0, [], []⟩

/-- Where a tracer fetches from. -/
inductive Origin
  | memory
  | fetcher (f : Fetcher)
deriving Repr, DecidableEq

/-- How a tracer uses the store. -/
inductive StoreUse
  | none
  /-- The store, where reading or writing may always fail. -/
  | shared (readFails writeFails : Bool)
deriving Repr, DecidableEq

/-- The time, which moves on at each reading. -/
def now (w : World) : Nat × World :=
  (w.clock, { w with clock := w.clock + 1 })

/-- Fetches from memory. -/
def fetchMemory (location : String) (w : World) : Except Fetch.Error Bytes × World :=
  ((w.artifacts.get? location).getD (.error (.notFound .unknown)),
    { w with asked := w.asked ++ [location] })

/-- Fetches from disk. -/
def fetchDisk (limit : Nat) (location : String) (w : World) : Except Fetch.Error Bytes × World :=
  (w.disk.fetch limit location, { w with opened := w.opened ++ [location] })

/-- The URL of a request that reaches the network. -/
def requested? (network : Network) (location : String) : Option String :=
  match Network.webUrl? location with
  | .error _ => none
  | .ok url =>
    if network.isUp && Network.canRequest (Network.requestUrl url) then
      some { Network.requestUrl url with fragment := none }.toString
    else none

/-- Fetches over the network. -/
def fetchNetwork (limit : Nat) (location : String) (w : World) : Except Fetch.Error Bytes × World :=
  (w.network.fetch limit location,
    { w with asked := w.asked ++ (requested? w.network location).toList })

/-- Fetches from where a tracer fetches. -/
def fetch (origin : Origin) (limit : Nat) (location : String) (w : World) :
    Except Fetch.Error Bytes × World :=
  match origin with
  | .memory => w.fetchMemory location
  | .fetcher .disk => w.fetchDisk limit location
  | .fetcher .network => w.fetchNetwork limit location

/-- Fetching changes nothing but what the world remembers of it. -/
theorem exists_fetch_snd_eq (origin : Origin) (limit : Nat) (location : String) (w : World) :
    ∃ asked opened, (fetch origin limit location w).2 = { w with asked, opened } := by
  rcases origin with _ | _ | _ <;> exact ⟨_, _, rfl⟩

/-- The store that always does what it is asked, except where it is told to fail. -/
def storeAccess (readFails writeFails : Bool) : StoreAccess World where
  get key w :=
    if readFails then (.error (.unavailable "read"), w) else (.ok (w.store.get? key), w)
  put key data w :=
    if writeFails then (.error (.unavailable "write"), w)
    else (.ok (), { w with store := w.store.put key data })

/-- The services of the world. -/
def services (origin : Origin) (limit : Nat) (use : StoreUse) : Services World where
  fetch := fetch origin limit
  store :=
    match use with
    | .none => none
    | .shared readFails writeFails => some (storeAccess readFails writeFails)
  now := now

/-- A tracer in the world. -/
def tracer (settings : Settings) (origin : Origin) (use : StoreUse) : Tracer World where
  services := services origin settings.maxArtifactBytes use
  contextLines := settings.contextLines

/-- Traces a stack trace with a new cache, fetching as its first frame says. -/
def trace (settings : Settings) (release : Release) (stack : Option (List StackFrame))
    (use : StoreUse) (w : World) : Except Tracer.Error (List TracedFrame) × World :=
  let origin : Origin := .fetcher (.select (stack.getD []))
  let (result, s) := (tracer settings origin use).run release stack ⟨.ofSettings settings, w⟩
  (result, s.world)

end World

end Retrace
