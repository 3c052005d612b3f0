import Mathlib
import Retrace.Proofs.Cache.Twins
import Retrace.Proofs.Store.Working
import Retrace.Proofs.Tracer.Course
import Retrace.Proofs.Tracer.Lockstep
import Retrace.Proofs.Tracer.Releases

/-!
# Replaying a run from the store

Whatever a tracer with a working store loads is in the store when its run is over. So a second
tracer with that store can do without fetching: it gives the same frames, whatever it would fetch
(`trace_replay`).

The runs need not be alike in what they load, as the first may fetch where the second finds
something in the store. But they are in step in what they get, and so are their caches. This matters
where a file is served the map of another because their keys clash: which of them is served depends
on what was pushed out of the cache before, and that is the same in both runs.
-/

namespace Retrace

namespace Services

variable {σ : Type} {services : Services σ}

/-- Each reading of the clock is later than the one before.

This is an assumption on the clock, which itself promises only that it does not run backwards. It is
needed for what a full cache pushes out: of several entries that were last used at the same time it
may be any, so that two runs whose readings coincide in different places may push out different
entries. Where all readings differ, the order of the uses alone decides. -/
def Ticks (services : Services σ) (time : σ → ℕ) : Prop :=
  ∀ w, (services.now w).1 < time (services.now w).2

/-- A world remembers the locations that were fetched, and reading the clock or the store adds none
to them. -/
structure Remembers (services : Services σ) (store : StoreAccess σ) (fetched : σ → List String) :
    Prop where
  fetch (location : String) (w : σ) :
    fetched (services.fetch location w).2 = fetched w ++ [location]
  get (key : ArtifactKey) (w : σ) : fetched (store.get key w).2 = fetched w
  now (w : σ) : fetched (services.now w).2 = fetched w

/-- A reading of the clock is one of those to come up to the end of a run. -/
lemma Working.has_now {store : StoreAccess σ} {objects : σ → String → Option Bytes} {time : σ → ℕ}
    {w last : σ} (working : services.Working store objects time) (ticks : services.Ticks time)
    (hend : Later objects time (services.now w).2 last) :
    Span.Has ⟨time w, time last⟩ (services.now w).1 :=
  ⟨working.time_le_now w, (ticks w).trans_le hend.time_le⟩

end Services

/-- Reading the clock for what a map is to take in. -/
lemma Services.Working.later_stamped {σ α : Type} {t : Tracer σ} {store : StoreAccess σ}
    {objects : σ → String → Option Bytes} {time : σ → ℕ} {m : ExpiringMap α} {key : String}
    {w w' : σ} {roomAt now : ℕ} (working : t.services.Working store objects time)
    (h : t.Stamped m key w roomAt now w') : Later objects time w w' :=
  h.world (P := Later objects time w) (fun w' hw' => hw'.trans (working.later_now w')) (.refl w)

namespace Tracer

variable {σ τ : Type} {t : Tracer σ} {t' : Tracer τ} {store : StoreAccess σ}
  {store' : StoreAccess τ} {objects : σ → String → Option Bytes}
  {objects' : τ → String → Option Bytes} {time : σ → ℕ} {time' : τ → ℕ}
  {fetched : τ → List String} {before : List String} {last : σ} {last' : τ}

/-! ### A run and its replay -/

/-- The state of a run and that of its replay, where `last` and `last'` are the worlds at their ends.
Only what is loaded up to the end of the run is in the store of the replay, and only entries that
outlast the ends, or are over at once, are the same to both clocks. -/
structure InStep (objects : σ → String → Option Bytes) (objects' : τ → String → Option Bytes)
    (time : σ → ℕ) (time' : τ → ℕ) (fetched : τ → List String) (before : List String) (last : σ)
    (last' : τ) (s : State σ) (s' : State τ) : Prop where
  sources : s.cache.sources.Twins ⟨time s.world, time last⟩ ⟨time' s'.world, time' last'⟩
    s'.cache.sources
  maps : s.cache.maps.Twins ⟨time s.world, time last⟩ ⟨time' s'.world, time' last'⟩ s'.cache.maps
  /-- The store of the replay is what that of the run is in the end. -/
  held : objects' s'.world = objects last
  /-- Nothing was fetched but what was fetched before. -/
  fetched : fetched s'.world = before

/-- The pairing of a run with its replay. -/
def replay (objects : σ → String → Option Bytes) (objects' : τ → String → Option Bytes)
    (time : σ → ℕ) (time' : τ → ℕ) (fetched : τ → List String) (before : List String) (last : σ)
    (last' : τ) : Pairing σ τ where
  rel := InStep objects objects' time time' fetched before last last'
  inTime w := Services.Later objects time w last
  inTime' w := Services.Later objects' time' w last'

section Steps

variable (working : t.services.Working store objects time) (ticks : t.services.Ticks time)
  (working' : t'.services.Working store' objects' time') (ticks' : t'.services.Ticks time')
  (remembers : t'.services.Remembers store' fetched)

include working' remembers

/-- Reading the clocks, with caches that are in step afterwards. -/
lemma InStep.read {s : State σ} {s' : State τ} {cache cache' : Cache}
    (h : InStep objects objects' time time' fetched before last last' s s')
    (hsources : cache.sources.Twins ⟨time (t.services.now s.world).2, time last⟩
      ⟨time' (t'.services.now s'.world).2, time' last'⟩ cache'.sources)
    (hmaps : cache.maps.Twins ⟨time (t.services.now s.world).2, time last⟩
      ⟨time' (t'.services.now s'.world).2, time' last'⟩ cache'.maps) :
    InStep objects objects' time time' fetched before last last'
      ⟨cache, (t.services.now s.world).2⟩ ⟨cache', (t'.services.now s'.world).2⟩ where
  sources := hsources
  maps := hmaps
  held := (working'.objects_now _).trans h.held
  fetched := (remembers.now _).trans h.fetched

/-- Keeping something, with caches that are in step afterwards. -/
lemma InStep.keep {α : Type} {s : State σ} {s' : State τ} {cache cache' : Cache} {w : σ} {w' : τ}
    {m : ExpiringMap α} {key : String} {roomAt now : ℕ}
    (h : InStep objects objects' time time' fetched before last last' s s')
    (hstamped : t'.Stamped m key s'.world roomAt now w')
    (hsources : cache.sources.Twins ⟨time w, time last⟩ ⟨time' w', time' last'⟩ cache'.sources)
    (hmaps : cache.maps.Twins ⟨time w, time last⟩ ⟨time' w', time' last'⟩ cache'.maps) :
    InStep objects objects' time time' fetched before last last' ⟨cache, w⟩ ⟨cache', w'⟩ where
  sources := hsources
  maps := hmaps
  held := (hstamped.eq working'.objects_now).trans h.held
  fetched := (hstamped.eq remembers.now).trans h.fetched

include working ticks ticks'

omit remembers in
/-- Reading the clocks for what twins are to take in, which then go on being twins. -/
lemma twins_insert_stamps {α : Type} {m m' : ExpiringMap α} {w : σ} {w' : τ}
    (h : m.Twins ⟨time w, time last⟩ ⟨time' w', time' last'⟩ m') (key : String) (value : α) :
    let stamps := t.stamps m key w
    let stamps' := t'.stamps m' key w'
    Services.Later objects time stamps.2.2 last → Services.Later objects' time' stamps'.2.2 last' →
      (m.insert stamps.1 stamps.2.1 key value).Twins ⟨time stamps.2.2, time last⟩
        ⟨time' stamps'.2.2, time' last'⟩ (m'.insert stamps'.1 stamps'.2.1 key value) := by
  obtain ⟨hcapacity, hroom⟩ := h.lacksRoom_eq key
  simp only [stamps, hcapacity, hroom]
  split
  · next hclosed =>
    intro _ _
    rw [ExpiringMap.insert_of_closed hclosed,
      ExpiringMap.insert_of_closed (hcapacity.trans hclosed)]
    exact h
  · split
    · -- room is made at the first of two readings
      intro hend hend'
      have hmiddle := (working.later_now (t.services.now w).2).trans hend
      have hmiddle' := (working'.later_now (t'.services.now w').2).trans hend'
      have hn := working.has_now ticks hend
      have hn' := working'.has_now ticks' hend'
      have htwins := h.insert (working.has_now ticks hmiddle) (working'.has_now ticks' hmiddle')
        ⟨(working.time_now w).trans hn.1, hn.2⟩ ⟨(working'.time_now w').trans hn'.1, hn'.2⟩ key value
      exact htwins.later (ticks _) (ticks' _)
    · intro hend hend'
      have hn := working.has_now ticks hend
      have hn' := working'.has_now ticks' hend'
      exact (h.insert hn hn' hn hn' key value).later (ticks _) (ticks' _)

/-- Looking for content in the caches. -/
lemma lockstep_cachedSource? (location : String) :
    (replay objects objects' time time' fetched before last last').Lockstep (fun _ => True)
      (t.cachedSource? location) (t'.cachedSource? location) where
  back := fun s hend => (working.later_now s.world).trans hend
  back' := fun s hend => (working'.later_now s.world).trans hend
  same := by
    intro s s' h hend hend' _
    have hn := working.has_now ticks hend
    have hn' := working'.has_now ticks' hend'
    obtain ⟨hsame, htwins⟩ := h.sources.get? hn hn' location
    exact ⟨hsame, h.read working' remembers (htwins.later (ticks _) (ticks' _))
      (h.maps.later (working.time_now _) (working'.time_now _))⟩

/-- Keeping content in the caches. -/
lemma lockstep_keepSource (location : String) (data : Bytes) :
    (replay objects objects' time time' fetched before last last').Lockstep (fun _ => True)
      (fun s => ((), t.keepSource location data s))
      (fun s => ((), t'.keepSource location data s)) where
  back := fun s hend => (working.later_stamped (t.stamped _ _ _)).trans hend
  back' := fun s hend => (working'.later_stamped (t'.stamped _ _ _)).trans hend
  same := by
    intro s s' h hend hend' _
    have htwins := twins_insert_stamps working ticks working' ticks' h.sources location data hend hend'
    exact ⟨rfl, h.keep working' remembers (t'.stamped _ _ _) htwins
      (h.maps.later (working.later_stamped (t.stamped _ _ _)).time_le
        (working'.later_stamped (t'.stamped _ _ _)).time_le)⟩

/-- Looking for a map in the caches. -/
lemma lockstep_cachedMap? (key : String) :
    (replay objects objects' time time' fetched before last last').Lockstep (fun _ => True)
      (t.cachedMap? key) (t'.cachedMap? key) where
  back := fun s hend => (working.later_now s.world).trans hend
  back' := fun s hend => (working'.later_now s.world).trans hend
  same := by
    intro s s' h hend hend' _
    have hn := working.has_now ticks hend
    have hn' := working'.has_now ticks' hend'
    obtain ⟨hsame, htwins⟩ := h.maps.get? hn hn' key
    exact ⟨hsame, h.read working' remembers
      (h.sources.later (working.time_now _) (working'.time_now _))
      (htwins.later (ticks _) (ticks' _))⟩

/-- Keeping a map in the caches. -/
lemma lockstep_keepMap (key : String) (map : SourceMap) :
    (replay objects objects' time time' fetched before last last').Lockstep (fun _ => True)
      (fun s => ((), t.keepMap key map s)) (fun s => ((), t'.keepMap key map s)) where
  back := fun s hend => (working.later_stamped (t.stamped _ _ _)).trans hend
  back' := fun s hend => (working'.later_stamped (t'.stamped _ _ _)).trans hend
  same := by
    intro s s' h hend hend' _
    have htwins := twins_insert_stamps working ticks working' ticks' h.maps key map hend hend'
    exact ⟨rfl, h.keep working' remembers (t'.stamped _ _ _)
      (h.sources.later (working.later_stamped (t.stamped _ _ _)).time_le
        (working'.later_stamped (t'.stamped _ _ _)).time_le) htwins⟩

omit ticks ticks' in
/-- Whatever the run loads, the replay finds in its store. -/
lemma lockstep_load (release : Release) (location : String) :
    (replay objects objects' time time' fetched before last last').Lockstep Loaded
      (t.load release location) (t'.load release location) where
  back := fun s hend => (working.later_load release location s.world).trans hend
  back' := fun s hend => (working'.later_load release location s.world).trans hend
  same := by
    intro s s' h hend hend' hloaded
    obtain ⟨data, hdata⟩ := hloaded
    have hheld : objects' s'.world (release.key location).text = some data := by
      rw [h.held]
      exact hend.holds (working.objects_load hdata)
    have hload : t'.load release location s' =
        (.ok data, { s' with world := (store'.get (release.key location) s'.world).2 }) := by
      rw [Tracer.load, working'.load_of_held hheld]
    rw [hload, hdata]
    refine ⟨rfl, ?_, ?_, ?_, ?_⟩
    · exact h.sources.later (working.later_load release location _).time_le
        (working'.time_get _ _)
    · exact h.maps.later (working.later_load release location _).time_le (working'.time_get _ _)
    · exact (working'.works.get_snd _ _).trans h.held
    · exact (remembers.get _ _).trans h.fetched

/-- A run and its replay are in lockstep, as far as loading succeeds. -/
lemma pairs_replay (hcontext : t'.contextLines = t.contextLines) (release : Release) :
    Pairs (replay objects objects' time time' fetched before last last') t t' release where
  contextLines := hcontext
  cachedSource? := lockstep_cachedSource? working ticks working' ticks' remembers
  keepSource := lockstep_keepSource working ticks working' ticks' remembers
  cachedMap? := lockstep_cachedMap? working ticks working' ticks' remembers
  keepMap := lockstep_keepMap working ticks working' ticks' remembers
  load := lockstep_load working working' remembers release

end Steps

/-- **Replaying a run.** A tracer with a new cache and a working store traces a stack trace, and
none of the frames says that something could not be fetched. A second tracer with a new cache of the
same size and the same time to live, which is zero or outlasts both runs, starts with the store as
it then is. It gives the same frames, and fetches nothing. -/
theorem trace_replay (working : t.services.Working store objects time)
    (ticks : t.services.Ticks time) (working' : t'.services.Working store' objects' time')
    (ticks' : t'.services.Ticks time') (remembers : t'.services.Remembers store' fetched)
    (hcontext : t'.contextLines = t.contextLines) (capacity ttlSecs : ℕ) (w : σ) (w' : τ)
    (release : Release) (stack : Option (List StackFrame)) :
    let ttl := ttlSecs * Cache.unitsPerSecond
    let run := t.trace release stack ⟨.make capacity ttlSecs, w⟩
    let replayed := t'.trace release stack ⟨.make capacity ttlSecs, w'⟩
    objects' w' = objects run.2.world →
      ttl = 0 ∨ time run.2.world ≤ time w + ttl ∧ time' replayed.2.world ≤ time' w' + ttl →
      (∀ traced, run.1 = .ok traced → ∀ out ∈ traced, SaysNotLost out) →
      replayed.1 = run.1 ∧ fetched replayed.2.world = fetched w' := by
  intro ttl run replayed hheld hlasting hclean
  cases stack with
  | none => exact ⟨rfl, rfl⟩
  | some fs =>
    have pairs : Pairs (replay objects objects' time time' fetched (fetched w') run.2.world
        replayed.2.world) t t' release :=
      pairs_replay working ticks working' ticks' remembers hcontext release
    have hstart : InStep objects objects' time time' fetched (fetched w') run.2.world
        replayed.2.world ⟨.make capacity ttlSecs, w⟩ ⟨.make capacity ttlSecs, w'⟩ :=
      ⟨ExpiringMap.twins_empty capacity hlasting, ExpiringMap.twins_empty capacity hlasting, hheld,
        rfl⟩
    obtain ⟨hsame, hend⟩ := (pairs.frames fs).same hstart (.refl _) (.refl _) (hclean _ rfl)
    exact ⟨congrArg Except.ok hsame, hend.fetched⟩

end Tracer

/-! ### A file that is fetched from memory once -/

namespace World

/-- The clock of the world moves on at each reading. -/
lemma ticks_services (origin : Origin) (limit : ℕ) (use : StoreUse) :
    (services origin limit use).Ticks clock :=
  fun w => Nat.lt_succ_self w.clock

/-- The world remembers what is fetched from memory. -/
lemma remembers_services (limit : ℕ) (use : StoreUse) (readFails writeFails : Bool) :
    (services .memory limit use).Remembers (storeAccess readFails writeFails) asked where
  fetch := fun _ _ => rfl
  get := by
    intro key w
    rw [storeAccess]
    cases readFails <;> rfl
  now := fun _ => rfl

end World

namespace Tracer

/-- A world with a file and its map in memory. -/
def fromMemory : World :=
  { World.make ⟨fun _ => .error .missing⟩ .down with
    artifacts := [("app.js", .ok script), ("app.js.map", .ok (mapData "one.ts"))] }

/-- The file is traced by its map. -/
lemma trace_fromMemory :
    (sharing.trace (versioned "1") (some [firstPlace]) ⟨.make 256 0, fromMemory⟩).1 =
      .ok [firstPlaceOf "one.ts"] := by
  obtain ⟨s₁, hsource, s₂, hcached, s₃, hload⟩ :
      ∃ s₁, sharing.source (versioned "1") "app.js" ⟨.make 256 0, fromMemory⟩ = (.ok script, s₁) ∧
        ∃ s₂, sharing.cachedMap? "app.js.map" s₁ = (none, s₂) ∧
          ∃ s₃, sharing.load (versioned "1") "app.js.map" s₂ = (.ok (mapData "one.ts"), s₃) :=
    ⟨_, rfl, _, rfl, _, rfl⟩
  obtain ⟨hparse, hurl⟩ := parse?_mapData (.inl rfl)
  have hdecode : decode? "app.js.map" (mapData "one.ts") = .ok (mapTo "one.ts") := by
    rw [decode?, hparse]
  have hcourse := FrameCourse.resolved (f := firstPlace) hsource mapOf?_script
    (.externalRead hcached hload hdecode)
  have hresolve : resolve? sharing.contextLines firstPlace (mapTo "one.ts") "app.js.map" =
      .ok (firstPlaceOf "one.ts") := resolve?_mapTo "app.js" hurl (by cbv)
  rw [trace_singleton, hcourse.frame_eq]
  exact congrArg (fun result => Except.ok [outcome firstPlace result]) hresolve

/-- A second tracer finds in the store what the first has fetched from memory, and needs no
artifacts in memory. -/
theorem fromMemory_replay :
    let run := sharing.trace (versioned "1") (some [firstPlace]) ⟨.make 256 0, fromMemory⟩
    let stored : World :=
      { World.make ⟨fun _ => .error .missing⟩ .down with store := run.2.world.store }
    let replayed := sharing.trace (versioned "1") (some [firstPlace]) ⟨.make 256 0, stored⟩
    run.1 = .ok [firstPlaceOf "one.ts"] ∧ replayed.1 = run.1 ∧ replayed.2.world.asked = [] := by
  intro run stored replayed
  have working : sharing.services.Working (World.storeAccess false false) World.storeObjects
      World.clock := World.working_services .memory Settings.default.maxArtifactBytes
  have ticks : sharing.services.Ticks World.clock :=
    World.ticks_services .memory Settings.default.maxArtifactBytes (.shared false false)
  have remembers : sharing.services.Remembers (World.storeAccess false false) World.asked :=
    World.remembers_services Settings.default.maxArtifactBytes (.shared false false) false false
  have hclean : ∀ traced, run.1 = .ok traced → ∀ out ∈ traced, SaysNotLost out := by
    intro traced htraced out hout location e herror
    rw [show run.1 = _ from trace_fromMemory] at htraced
    rw [← Except.ok.inj htraced, List.mem_singleton] at hout
    rw [hout] at herror
    cases herror
  obtain ⟨hsame, hfetched⟩ := trace_replay working ticks working ticks remembers rfl 256 0
    fromMemory stored (versioned "1") (some [firstPlace]) rfl (.inl rfl) hclean
  exact ⟨trace_fromMemory, hsame, hfetched⟩

end Tracer

end Retrace
