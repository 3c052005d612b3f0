import Retrace.FileTree
import Retrace.World
/-!
# Sessions

Several tracers in one world, which share its store and may share a cache, and the steps that are
taken with them one after the other: stack traces are traced, and files, artifacts and the store
change in between.
-/

namespace Retrace

namespace Session

/-- What a tracer is made from. -/
structure Setup where
  settings : Settings
  origin : World.Origin
  storeUse : World.StoreUse
  /-- An earlier tracer whose cache is used, if it has none of its own. -/
  sharesCacheOf : Option Nat

/-- A tracer with the number of its cache. -/
structure Member where
  tracer : Tracer World
  cache : Nat

/-- A step of a session. -/
inductive Step
  | trace (member : Nat) (stack : Option (List StackFrame)) (release : Release)
  | setArtifact (location : String) (content : Except Fetch.Error Bytes)
  | removeArtifact (location : String)
  | writeFile (path : String) (data : Bytes)
  | setReply (url : String) (reply : Reply)
  | put (key : ArtifactKey) (data : Bytes)
  | get (key : ArtifactKey)

/-- What a step gives. -/
inductive Result
  | nothing
  | traced (result : Except Tracer.Error (List TracedFrame))
  | found (data : Option Bytes)

/-- What a step gives and what was seen of it. -/
structure Report where
  result : Result
  /-- What was asked for in memory and over the network during the step. -/
  asked : List String
  /-- The sizes of the cache that was used. -/
  counts : Option (Nat × Nat)
  storeSize : Nat

end Session

/-- Tracers, their caches and the world that they share. -/
structure Session where
  members : List Session.Member
  caches : List Cache
  tree : FileTree
  world : World

namespace Session

/-- Adds a tracer to others. -/
def addMember (members : List Member) (setup : Setup) : List Member :=
  let own := members.length
  let cache := match setup.sharesCacheOf with
    | some other => (members[other]?.map Member.cache).getD own
    | none => own
  members ++ [⟨World.tracer setup.settings setup.origin setup.storeUse, cache⟩]

/-- The session before its first step, which comes when the clock has run for a second. -/
def start (setups : List Setup) (tree : FileTree) (network : Network)
    (artifacts : Dictionary (Except Fetch.Error Bytes)) : Session where
  members := setups.foldl addMember []
  caches := setups.map fun setup => Cache.ofSettings setup.settings
  tree := tree
  world := { World.make tree.disk network with artifacts, clock := Cache.unitsPerSecond }

/-- Traces a stack trace with one of the tracers. -/
def trace (session : Session) (member : Nat) (stack : Option (List StackFrame))
    (release : Release) : Result × Option (Nat × Nat) × Session :=
  match session.members[member]? with
  | none => (.nothing, none, session)
  | some m =>
    match session.caches[m.cache]? with
    | none => (.nothing, none, session)
    | some cache =>
      let (result, s) := m.tracer.run release stack ⟨cache, session.world⟩
      (.traced result, some s.cache.counts,
        { session with caches := session.caches.set m.cache s.cache, world := s.world })

/-- Changes the world between two traces. -/
def changeWorld (session : Session) (f : World → World) : Session :=
  { session with world := f session.world }

/-- Takes a step. -/
def step (session : Session) : Step → Result × Option (Nat × Nat) × Session
  | .trace member stack release => session.trace member stack release
  | .setArtifact location content =>
    (.nothing, none,
      session.changeWorld fun w => { w with artifacts := w.artifacts.put location content })
  | .removeArtifact location =>
    (.nothing, none,
      session.changeWorld fun w => { w with artifacts := w.artifacts.remove location })
  | .writeFile path data =>
    let tree := session.tree.put path.toList (.file data)
    (.nothing, none,
      { session with tree, world := { session.world with disk := tree.disk } })
  | .setReply url reply =>
    (.nothing, none,
      session.changeWorld fun w =>
        { w with network := { w.network with replies := w.network.replies.put url reply } })
  | .put key data =>
    (.nothing, none, session.changeWorld fun w => { w with store := w.store.put key data })
  | .get key => (.found (session.world.store.get? key), none, session)

/-- Takes a step and reports what was seen of it. -/
def report (session : Session) (s : Step) : Report × Session :=
  let before := session.changeWorld fun w => { w with asked := [] }
  let (result, counts, after) := before.step s
  (⟨result, after.world.asked, counts, after.world.store.size⟩, after)

/-- Takes steps one after the other. -/
def run (session : Session) : List Step → List Report
  | [] => []
  | s :: rest =>
    let (report, after) := session.report s
    report :: run after rest

end Session

end Retrace
