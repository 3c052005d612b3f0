import Mathlib
import Retrace.Proofs.Store.Working
import Retrace.Proofs.Tracer.StoreTransparency

/-!
# What is written to the store

Several tracers may share a store. Whatever they fetch they put into it, under the key of the
release of the call, and they put nothing else into it. As only what the store does not hold is
fetched, nothing in it is ever written over, and nothing is fetched again once it is there.

`Grows` states all of this of two worlds and a list of what was received between them. One load
makes a store grow by what it receives (`grows_load`), so a run does (`Path.grows`), and so do the
calls of all tracers, one after the other (`store_grows`). It does not matter what the tracers have
in their caches.
-/

namespace Retrace

variable {σ : Type}

/-- Services that have a share in a store that works: fetching and reading the clock leave it
alone. -/
structure Services.Shares (services : Services σ) (store : StoreAccess σ)
    (objects : σ → String → Option Bytes) : Prop where
  store_eq : services.store = some store
  works : store.Works objects
  objects_fetch (location : String) (w : σ) : objects (services.fetch location w).2 = objects w
  objects_now (w : σ) : objects (services.now w).2 = objects w

/-- Such services work by a clock that stands still. -/
lemma Services.Shares.working {services : Services σ} {store : StoreAccess σ}
    {objects : σ → String → Option Bytes} (shares : services.Shares store objects) :
    services.Working store objects fun _ => 0 where
  store_eq := shares.store_eq
  works := shares.works
  objects_fetch := shares.objects_fetch
  objects_now := shares.objects_now
  time_le_now := fun _ => Nat.zero_le _
  time_now := fun _ => le_rfl
  time_fetch := fun _ _ => le_rfl
  time_get := fun _ _ => le_rfl
  time_put := fun _ _ _ => le_rfl

/-! ### Stores that grow -/

/-- From one world to another the store grows by what was received in between: it holds what it held
and what was received, and nothing else; and nothing was received that it held, or that was received
before. -/
structure Grows (objects : σ → String → Option Bytes) (w : σ)
    (received : List (ArtifactKey × Bytes)) (w' : σ) : Prop where
  holds_iff {text : String} {data : Bytes} : objects w' text = some data ↔
    objects w text = some data ∨ ∃ key, (key, data) ∈ received ∧ key.text = text
  fresh : ∀ p ∈ received, objects w p.1.text = none
  distinct : received.Pairwise fun p q => p.1.text ≠ q.1.text

section Grows

variable {objects : σ → String → Option Bytes} {w w' w'' : σ}
  {received received' : List (ArtifactKey × Bytes)} {key : ArtifactKey} {data : Bytes}

/-- Nothing is received, and the store stays as it is. -/
lemma Grows.of_objects_eq (h : objects w' = objects w) : Grows objects w [] w' where
  holds_iff := by simp [h]
  fresh := fun _ hp => absurd hp List.not_mem_nil
  distinct := .nil

/-- One object is received and put into the store. -/
lemma Grows.single (hnone : objects w key.text = none) (hself : objects w' key.text = some data)
    (hother : ∀ text, text ≠ key.text → objects w' text = objects w text) :
    Grows objects w [(key, data)] w' where
  holds_iff := by
    intro text data'
    by_cases htext : text = key.text
    · simp [htext, hnone, hself, eq_comm]
    · simp [hother text htext, Ne.symm htext]
  fresh := by
    intro p hp
    rw [List.mem_singleton.mp hp]
    exact hnone
  distinct := List.pairwise_singleton _ _

/-- What is received once the store has grown is none of what it has grown by. -/
lemma Grows.trans (h : Grows objects w received w') (h' : Grows objects w' received' w'') :
    Grows objects w (received ++ received') w'' where
  holds_iff := by
    intro text data
    simp only [h'.holds_iff, h.holds_iff, List.mem_append]
    grind
  fresh := by
    intro p hp
    rcases List.mem_append.mp hp with hp | hp
    · exact h.fresh p hp
    · have hnone := h'.fresh p hp
      cases hobject : objects w p.1.text with
      | none => rfl
      | some data =>
        rw [h.holds_iff.mpr (.inl hobject)] at hnone
        cases hnone
  distinct := by
    refine List.pairwise_append.mpr ⟨h.distinct, h'.distinct, fun p hp q hq htext => ?_⟩
    have hheld : objects w' p.1.text = some p.2 := h.holds_iff.mpr (.inr ⟨p.1, hp, rfl⟩)
    rw [htext, h'.fresh q hq] at hheld
    cases hheld

end Grows

namespace Tracer

/-! ### What is received -/

/-- What is received when the fetcher is asked, under its key. -/
def receivedOf (release : Release) :
    String × Except Fetch.Error Bytes → Option (ArtifactKey × Bytes)
  | (location, .ok data) => some (release.key location, data)
  | (_, .error _) => none

/-- What is received while frames are traced. -/
def received (t : Tracer σ) (release : Release) (fs : List StackFrame) (s : State σ) :
    List (ArtifactKey × Bytes) :=
  (t.fetches release fs s).filterMap (receivedOf release)

section Growth

variable {services : Services σ} {store : StoreAccess σ} {objects : σ → String → Option Bytes}
  {release : Release}

/-- A load makes the store grow by what it receives. -/
lemma grows_load (shares : services.Shares store objects) (location : String) (w : σ) :
    Grows objects w
      (([⟨location, w⟩].filterMap (Load.fetch? services release)).filterMap (receivedOf release))
      (services.load release location w).2 := by
  have hcourse := services.loadCourse release location w
  generalize (services.load release location w).1 = result at hcourse
  generalize (services.load release location w).2 = w' at hcourse ⊢
  have hget := shares.works.get_snd (release.key location) w
  have hasked := shares.working.stored_eq (release.key location) w
  cases hcourse with
  | held hstored =>
    obtain ⟨-, rfl⟩ := Prod.mk.inj (hstored.symm.trans hasked)
    simp only [List.filterMap_cons, List.filterMap_nil, Load.fetch?, hstored]
    exact .of_objects_eq hget
  | @lost e w₁ w₂ hstored hfetch =>
    obtain ⟨-, rfl⟩ := Prod.mk.inj (hstored.symm.trans hasked)
    have hfetched := shares.objects_fetch location (store.get (release.key location) w).2
    rw [hfetch] at hfetched
    simp only [List.filterMap_cons, List.filterMap_nil, Load.fetch?, hstored, hfetch, receivedOf]
    exact .of_objects_eq (hfetched.trans hget)
  | @fetched data w₁ w₂ hstored hfetch =>
    obtain ⟨hnone, rfl⟩ := Prod.mk.inj (hstored.symm.trans hasked)
    have hfetched := shares.objects_fetch location (store.get (release.key location) w).2
    rw [hfetch] at hfetched
    have hkeep : services.keep (release.key location) data w₂ =
        (store.put (release.key location) data w₂).2 := by
      rw [Services.keep, shares.store_eq]
    simp only [List.filterMap_cons, List.filterMap_nil, Load.fetch?, hstored, hfetch, receivedOf,
      hkeep]
    refine .single hnone.symm (shares.works.put_self _ data w₂) fun text htext => ?_
    rw [shares.works.put_of_ne _ data w₂ htext, hfetched, hget]

/-- A path makes the store grow by what its loads receive. -/
lemma Path.grows (shares : services.Shares store objects) {w w' : σ} {loads : List (Load σ)}
    (h : Path services release w loads w') :
    Grows objects w
      ((loads.filterMap (Load.fetch? services release)).filterMap (receivedOf release)) w' := by
  induction h with
  | done w => exact .of_objects_eq rfl
  | @now w w' loads _ ih => exact (Grows.of_objects_eq (shares.objects_now w)).trans ih
  | @load w w' location loads _ ih =>
    rw [← List.singleton_append, List.filterMap_append, List.filterMap_append]
    exact (grows_load shares location w).trans ih

end Growth

/-! ### Tracers that share a store -/

/-- A call of one of several tracers, with the name of the cache that it uses. Some of them may use
the same. -/
structure PeerCall (κ σ : Type) extends Call where
  tracer : Tracer σ
  cache : κ

/-- What several tracers change: their caches, by name, and the world. -/
structure PeerState (κ σ : Type) where
  caches : κ → Cache
  world : σ

variable {κ : Type}

/-- The state as a tracer with one of the caches sees it. -/
def PeerState.of (s : PeerState κ σ) (cache : κ) : State σ :=
  ⟨s.caches cache, s.world⟩

/-- What is received in a call. -/
def PeerCall.received (call : PeerCall κ σ) (s : PeerState κ σ) : List (ArtifactKey × Bytes) :=
  call.tracer.received call.release (call.stack.getD []) (s.of call.cache)

variable [DecidableEq κ]

/-- What a call leaves. -/
def PeerCall.after (call : PeerCall κ σ) (s : PeerState κ σ) : PeerState κ σ :=
  let left := (call.tracer.trace call.release call.stack (s.of call.cache)).2
  ⟨Function.update s.caches call.cache left.cache, left.world⟩

/-- What calls leave, one after the other. -/
def afterPeerCalls (calls : List (PeerCall κ σ)) (s : PeerState κ σ) : PeerState κ σ :=
  calls.foldl (fun s call => call.after s) s

/-- What is received in calls, one after the other. -/
def receivedInCalls : List (PeerCall κ σ) → PeerState κ σ → List (ArtifactKey × Bytes)
  | [], _ => []
  | call :: rest, s => call.received s ++ receivedInCalls rest (call.after s)

variable {store : StoreAccess σ} {objects : σ → String → Option Bytes}
  {calls : List (PeerCall κ σ)}

/-- A call makes the store grow by what it receives. -/
lemma PeerCall.grows {call : PeerCall κ σ} (shares : call.tracer.services.Shares store objects)
    (s : PeerState κ σ) : Grows objects s.world (call.received s) (call.after s).world := by
  obtain ⟨⟨release, stack⟩, tracer, cache⟩ := call
  cases stack with
  | none => exact .of_objects_eq rfl
  | some fs => exact (path_frames tracer release fs (s.of cache)).grows shares

/-- Calls make the store grow by what they receive. -/
lemma grows_calls (shares : ∀ call ∈ calls, call.tracer.services.Shares store objects)
    (s : PeerState κ σ) :
    Grows objects s.world (receivedInCalls calls s) (afterPeerCalls calls s).world := by
  induction calls generalizing s with
  | nil => exact .of_objects_eq rfl
  | cons call rest ih =>
    obtain ⟨hcall, hrest⟩ := List.forall_mem_cons.mp shares
    exact (PeerCall.grows hcall s).trans (ih hrest (call.after s))

/-- **What is written to the store.** Tracers that share a store that works make any calls. Each
call makes the store grow by what the call has received from the fetcher of its tracer, under the
release of the call, and all calls together make it grow by what they have received together. So
nothing in the store is changed or removed, nothing else comes into it, and nothing is received
again once it is there. -/
theorem store_grows (shares : ∀ call ∈ calls, call.tracer.services.Shares store objects)
    (s : PeerState κ σ) :
    (∀ before call later, calls = before ++ call :: later →
      let start := afterPeerCalls before s
      Grows objects start.world (call.received start) (call.after start).world) ∧
      Grows objects s.world (receivedInCalls calls s) (afterPeerCalls calls s).world := by
  refine ⟨fun before call later hcalls => ?_, grows_calls shares s⟩
  have hcall : call ∈ calls := by
    rw [hcalls]
    exact List.mem_append_right before List.mem_cons_self
  exact PeerCall.grows (shares call hcall) (afterPeerCalls before s)

/-! ### Two tracers with the same file -/

/-- Two new caches, and a world with a file and its map in memory. -/
def twoCaches : PeerState Bool World :=
  ⟨fun _ => .make 256 3600, fromMemory⟩

/-- A call on the file with one of the caches. -/
def firstPlaceCall (cache : Bool) : PeerCall Bool World :=
  ⟨⟨versioned "1", some [firstPlace]⟩, sharing, cache⟩

/-- The file and its map, under their keys. -/
def scriptAndMap : List (ArtifactKey × Bytes) :=
  [((versioned "1").key "app.js", script), ((versioned "1").key "app.js.map", mapData "one.ts")]

/-- The world once both have been fetched and put into the store. -/
def bothStored : World :=
  { fromMemory with
    store := ⟨[("1/1/disk/rel/app.js", script), ("1/1/disk/rel/app.js.map", mapData "one.ts")]⟩
    clock := 4
    asked := ["app.js", "app.js.map"] }

/-- With nothing in the store, a tracer receives the file and its map. -/
lemma received_fromMemory :
    sharing.received (versioned "1") [firstPlace] ⟨.make 256 3600, fromMemory⟩ = scriptAndMap ∧
      (sharing.trace (versioned "1") (some [firstPlace]) ⟨.make 256 3600, fromMemory⟩).2.world =
        bothStored := by
  obtain ⟨s₁, hsource, s₂, hcached, s₃, hload, hloads, hworld⟩ :
      ∃ s₁, sharing.source (versioned "1") "app.js" ⟨.make 256 3600, fromMemory⟩ =
          (.ok script, s₁) ∧
        ∃ s₂, sharing.cachedMap? "app.js.map" s₁ = (none, s₂) ∧
          ∃ s₃, sharing.load (versioned "1") "app.js.map" s₂ = (.ok (mapData "one.ts"), s₃) ∧
            sharing.mapLoads (.external "app.js.map") s₁ =
              [⟨"app.js.map",
                { fromMemory with
                  store := ⟨[("1/1/disk/rel/app.js", script)]⟩
                  clock := 3
                  asked := ["app.js"] }⟩] ∧
              (sharing.keepMap "app.js.map" (mapTo "one.ts") s₃).world = bothStored :=
    ⟨_, rfl, _, rfl, _, rfl, rfl, rfl⟩
  have hdecode : decode? "app.js.map" (mapData "one.ts") = .ok (mapTo "one.ts") := by
    rw [decode?, (parse?_mapData (.inl rfl)).1]
  have hframe := (FrameCourse.resolved (f := firstPlace) hsource mapOf?_script
    (.externalRead hcached hload hdecode)).frame_eq
  constructor
  · rw [received, fetches, loads_firstPlace hsource, hloads]
    rfl
  · rw [trace_singleton, hframe]
    exact hworld

/-- With both in the store, a tracer receives nothing. -/
lemma received_bothStored :
    sharing.received (versioned "1") [firstPlace] ⟨.make 256 3600, bothStored⟩ = [] := by
  obtain ⟨s₁, hsource, hloads⟩ :
      ∃ s₁, sharing.source (versioned "1") "app.js" ⟨.make 256 3600, bothStored⟩ =
          (.ok script, s₁) ∧
        sharing.mapLoads (.external "app.js.map") s₁ =
          [⟨"app.js.map", { bothStored with clock := 7 }⟩] :=
    ⟨_, rfl, rfl⟩
  rw [received, fetches, loads_firstPlace hsource, hloads]
  rfl

/-- The first of two tracers fetches the file and its map, and the store grows by both; the second
fetches nothing. -/
theorem twoCaches_grows :
    let calls := [firstPlaceCall false, firstPlaceCall true]
    receivedInCalls calls twoCaches = scriptAndMap ∧
      Grows World.storeObjects fromMemory scriptAndMap (afterPeerCalls calls twoCaches).world := by
  intro calls
  have working := World.working_services .memory Settings.default.maxArtifactBytes
  have shares : ∀ call ∈ calls, call.tracer.services.Shares (World.storeAccess false false)
      World.storeObjects := by
    intro call hcall
    have htracer : call.tracer = sharing := by
      simp only [calls, List.mem_cons, List.not_mem_nil, or_false] at hcall
      rcases hcall with rfl | rfl <;> rfl
    rw [htracer]
    exact ⟨working.store_eq, working.works, working.objects_fetch, working.objects_now⟩
  have hreceived : receivedInCalls calls twoCaches = scriptAndMap := by
    have hfirst : (firstPlaceCall false).received twoCaches = scriptAndMap :=
      received_fromMemory.1
    have hafter : ((firstPlaceCall false).after twoCaches).of true =
        ⟨.make 256 3600, bothStored⟩ :=
      congrArg (State.mk _) received_fromMemory.2
    have hsecond :
        (firstPlaceCall true).received ((firstPlaceCall false).after twoCaches) = [] := by
      rw [PeerCall.received, show (firstPlaceCall true).cache = true from rfl, hafter]
      exact received_bothStored
    simp only [calls, receivedInCalls, hfirst, hsecond, List.append_nil]
  refine ⟨hreceived, ?_⟩
  rw [← hreceived]
  exact (store_grows shares twoCaches).2

end Tracer

end Retrace
