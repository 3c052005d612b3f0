import Mathlib
import Retrace.Proofs.Tracer.Course
import Retrace.World

/-!
# What a run loads

A run changes its world in two ways only: it reads the clock, and it loads artifacts that the cache
does not have. `loads` lists the loads of a run, each with the world in which it starts, and a
`Path` leads from the first world of the run to its last by readings of the clock and by just these
loads (`path_frames`). So what single readings and loads do to a world tells what a run does to it,
by induction on the path.

A load asks the store, and the fetcher only if the store has nothing. `fetches` lists what a run
asks of the fetcher with the answers that it gets. A world that keeps a log of what is fetched has
just these entries in its log (`log_frames`).
-/

namespace Retrace

variable {σ : Type}

/-! ### One load -/

namespace Services

/-- The ways to load an artifact. -/
inductive LoadCourse (services : Services σ) (release : Release) (location : String) (w : σ) :
    Except Fetch.Error Bytes → σ → Prop
  /-- The store has it. -/
  | held {data : Bytes} {w₁ : σ}
      (hstored : services.stored (release.key location) w = (some data, w₁)) :
      LoadCourse services release location w (.ok data) w₁
  /-- It cannot be fetched. -/
  | lost {e : Fetch.Error} {w₁ w₂ : σ}
      (hstored : services.stored (release.key location) w = (none, w₁))
      (hfetch : services.fetch location w₁ = (.error e, w₂)) :
      LoadCourse services release location w (.error e) w₂
  /-- It is fetched and kept. -/
  | fetched {data : Bytes} {w₁ w₂ : σ}
      (hstored : services.stored (release.key location) w = (none, w₁))
      (hfetch : services.fetch location w₁ = (.ok data, w₂)) :
      LoadCourse services release location w (.ok data)
        (services.keep (release.key location) data w₂)

/-- An artifact is loaded in one of the ways. -/
lemma loadCourse (services : Services σ) (release : Release) (location : String) (w : σ) :
    LoadCourse services release location w (services.load release location w).1
      (services.load release location w).2 := by
  rw [load]
  split
  · next data w₁ hstored => exact .held hstored
  · next w₁ hstored =>
    split
    · next e w₂ hfetch => exact .lost hstored hfetch
    · next data w₂ hfetch => exact .fetched hstored hfetch

/-- Using the store and fetching keep a property of worlds. -/
structure Keeps (services : Services σ) (P : σ → Prop) : Prop where
  get {store : StoreAccess σ} (hstore : services.store = some store) (key : ArtifactKey) {w : σ}
    (h : P w) : P (store.get key w).2
  put {store : StoreAccess σ} (hstore : services.store = some store) (key : ArtifactKey)
    (data : Bytes) {w : σ} (h : P w) : P (store.put key data w).2
  fetch (location : String) {w : σ} (h : P w) : P (services.fetch location w).2

section Keeps

variable {services : Services σ} {P : σ → Prop} {key : ArtifactKey} {w : σ}

/-- Without a store only fetching has to keep it. -/
lemma Keeps.of_store_eq_none (h : services.store = none)
    (hfetch : ∀ location {w : σ}, P w → P (services.fetch location w).2) : services.Keeps P := by
  have hunused : ∀ {store}, services.store ≠ some store := by
    intro store hstore
    rw [h] at hstore
    cases hstore
  exact
    { get := fun hstore => absurd hstore hunused
      put := fun hstore => absurd hstore hunused
      fetch := hfetch }

/-- What is found in the store a get has given. -/
lemma exists_get_of_stored {data : Bytes} {w₁ : σ}
    (h : services.stored key w = (some data, w₁)) :
    ∃ store, services.store = some store ∧ store.get key w = (.ok (some data), w₁) := by
  rw [stored] at h
  split at h
  · cases h
  · next store hstore =>
    refine ⟨store, hstore, ?_⟩
    split at h
    · next found w₂ hget =>
      obtain ⟨rfl, rfl⟩ := Prod.mk.inj h
      exact hget
    · cases h

/-- Asking the store keeps the property. -/
lemma Keeps.stored (keeps : services.Keeps P) (key : ArtifactKey) (h : P w) :
    P (services.stored key w).2 := by
  rw [Services.stored]
  split
  · exact h
  · next store hstore =>
    have hget := keeps.get hstore key h
    split
    · next heq =>
      rw [heq] at hget
      exact hget
    · next heq =>
      rw [heq] at hget
      exact hget

/-- So does putting something in. -/
lemma Keeps.keep (keeps : services.Keeps P) (key : ArtifactKey) (data : Bytes) (h : P w) :
    P (services.keep key data w) := by
  rw [Services.keep]
  split
  · exact h
  · next store hstore => exact keeps.put hstore key data h

/-- Loading keeps what using the store and fetching keep. -/
lemma Keeps.load (keeps : services.Keeps P) (release : Release) (location : String) (h : P w) :
    P (services.load release location w).2 := by
  have hcourse := services.loadCourse release location w
  generalize (services.load release location w).1 = result at hcourse
  generalize (services.load release location w).2 = w' at hcourse ⊢
  have hstored₁ := keeps.stored (release.key location) h
  have hfetch₂ := keeps.fetch location hstored₁
  cases hcourse with
  | held hstored =>
    rw [hstored] at hstored₁
    exact hstored₁
  | lost hstored hfetch =>
    rw [hstored, hfetch] at hfetch₂
    exact hfetch₂
  | @fetched data _ _ hstored hfetch =>
    rw [hstored, hfetch] at hfetch₂
    exact keeps.keep (release.key location) data hfetch₂

end Keeps

end Services

namespace Tracer

/-- A load of a run: the location, and the world in which the load starts. -/
structure Load (σ : Type) where
  location : String
  world : σ

/-- What a load asks of the fetcher, and the answer, unless the store has the artifact. -/
def Load.fetch? (services : Services σ) (release : Release) (load : Load σ) :
    Option (String × Except Fetch.Error Bytes) :=
  match services.stored (release.key load.location) load.world with
  | (some _, _) => none
  | (none, w) => some (load.location, (services.fetch load.location w).1)

/-! ### The loads of a run -/

/-- The load of a generated file that the cache does not have. -/
def sourceLoads (t : Tracer σ) (location : String) (s : State σ) : List (Load σ) :=
  match t.cachedSource? location s with
  | (some _, _) => []
  | (none, s) => [⟨location, s.world⟩]

/-- The load of a map that has a location of its own and that the cache does not have. -/
def mapLoads (t : Tracer σ) (place : MapLocation) (s : State σ) : List (Load σ) :=
  match place with
  | .inline _ => []
  | .external url =>
    match t.cachedMap? url s with
    | (some _, _) => []
    | (none, s) => [⟨url, s.world⟩]

/-- The loads for a frame. -/
def frameLoads (t : Tracer σ) (release : Release) (f : StackFrame) (s : State σ) :
    List (Load σ) :=
  t.sourceLoads f.fileName s ++
    match t.source release f.fileName s with
    | (.error _, _) => []
    | (.ok text, s) =>
      match mapOf? f.fileName text with
      | .error _ => []
      | .ok place => t.mapLoads place s

/-- The loads for frames that are traced one after the other. -/
def loads (t : Tracer σ) (release : Release) : List StackFrame → State σ → List (Load σ)
  | [], _ => []
  | f :: rest, s => t.frameLoads release f s ++ loads t release rest (t.frame release f s).2

/-- What is asked of the fetcher while frames are traced, with the answers. -/
def fetches (t : Tracer σ) (release : Release) (fs : List StackFrame) (s : State σ) :
    List (String × Except Fetch.Error Bytes) :=
  (t.loads release fs s).filterMap (Load.fetch? t.services release)

/-! ### The path of a run -/

/-- A way from one world to another by readings of the clock and by loads. -/
inductive Path (services : Services σ) (release : Release) : σ → List (Load σ) → σ → Prop
  | done (w : σ) : Path services release w [] w
  | now {w w' : σ} {loads : List (Load σ)}
      (h : Path services release (services.now w).2 loads w') : Path services release w loads w'
  | load {w w' : σ} {location : String} {loads : List (Load σ)}
      (h : Path services release (services.load release location w).2 loads w') :
      Path services release w (⟨location, w⟩ :: loads) w'

section Paths

variable {t : Tracer σ} {release : Release} {location : String} {s s' : State σ}
  {services : Services σ} {w w' w'' : σ} {loads loads' : List (Load σ)}

/-- Two paths, one after the other. -/
lemma Path.append (h : Path services release w loads w')
    (h' : Path services release w' loads' w'') :
    Path services release w (loads ++ loads') w'' := by
  induction h with
  | done => exact h'
  | now _ ih => exact .now (ih h')
  | load _ ih => exact .load (ih h')

/-- One load. -/
lemma Path.single (services : Services σ) (release : Release) (location : String) (w : σ) :
    Path services release w [⟨location, w⟩] (services.load release location w).2 :=
  .load (.done _)

/-- One reading of the clock. -/
lemma Path.read (services : Services σ) (release : Release) (w : σ) :
    Path services release w [] (services.now w).2 :=
  .now (.done _)

/-- What holds of the first world of a path, and is kept by its steps, holds of all its worlds. -/
lemma Path.forall_world {P : σ → Prop} (h : Path services release w loads w')
    (keeps : services.Keeps P) (hnow : ∀ w, P w → P (services.now w).2) (hw : P w) :
    (∀ load ∈ loads, P load.world) ∧ P w' := by
  induction h with
  | done => exact ⟨fun load hmem => absurd hmem List.not_mem_nil, hw⟩
  | now _ ih => exact ih (hnow _ hw)
  | @load w w' location loads _ ih =>
    obtain ⟨hloads, hend⟩ := ih (keeps.load release location hw)
    refine ⟨fun load hmem => ?_, hend⟩
    rcases List.mem_cons.mp hmem with rfl | hrest
    · exact hw
    · exact hloads load hrest

/-- Looking for the content of a generated file reads the clock. -/
lemma path_of_cachedSource? {found : Option Bytes} (release : Release)
    (h : t.cachedSource? location s = (found, s')) :
    Path t.services release s.world [] s'.world := by
  obtain ⟨-, rfl⟩ := Prod.mk.inj h
  exact .read t.services release s.world

/-- Looking for a map reads the clock. -/
lemma path_of_cachedMap? {key : String} {found : Option SourceMap} (release : Release)
    (h : t.cachedMap? key s = (found, s')) : Path t.services release s.world [] s'.world := by
  obtain ⟨-, rfl⟩ := Prod.mk.inj h
  exact .read t.services release s.world

/-- Keeping something reads the clock, as often as this takes. -/
lemma Stamped.path {α : Type} {m : ExpiringMap α} {key : String} {roomAt now : ℕ}
    (h : t.Stamped m key w roomAt now w') (release : Release) :
    Path t.services release w [] w' :=
  h.world (P := Path t.services release w [])
    (fun w' hpath => hpath.append (.read t.services release w')) (.done w)

/-- Loading is a load. -/
lemma path_of_load {result : Except Fetch.Error Bytes}
    (h : t.load release location s = (result, s')) :
    Path t.services release s.world [⟨location, s.world⟩] s'.world := by
  obtain ⟨-, rfl⟩ := Prod.mk.inj h
  exact .single t.services release location s.world

/-- The way of the world while a generated file is got. -/
lemma path_source (t : Tracer σ) (release : Release) (location : String) (s : State σ) :
    Path t.services release s.world (t.sourceLoads location s)
      (t.source release location s).2.world := by
  have hcourse := sourceCourse t release location s
  generalize (t.source release location s).1 = result at hcourse
  generalize (t.source release location s).2 = s' at hcourse ⊢
  cases hcourse with
  | hit hcached =>
    rw [sourceLoads, hcached]
    exact path_of_cachedSource? release hcached
  | lost hcached hload =>
    rw [sourceLoads, hcached]
    exact (path_of_cachedSource? release hcached).append (path_of_load hload)
  | loaded hcached hload =>
    rw [sourceLoads, hcached]
    exact ((path_of_cachedSource? release hcached).append (path_of_load hload)).append
      ((t.stamped _ location _).path release)

/-- The way of the world while the map at a place is got. -/
lemma MapCourse.path {place : MapLocation} {found : Except Failure SourceMap}
    (h : MapCourse t release location s place found s') :
    Path t.services release s.world (t.mapLoads place s) s'.world := by
  cases h with
  | @hit place map s₁ hcached =>
    cases place with
    | inline data => exact path_of_cachedMap? release hcached
    | external url =>
      rw [mapLoads, show t.cachedMap? url s = _ from hcached]
      exact path_of_cachedMap? release hcached
  | inlineBad hcached => exact path_of_cachedMap? release hcached
  | inlineRead hcached =>
    exact (path_of_cachedMap? release hcached).append ((t.stamped _ _ _).path release)
  | externalLost hcached hload =>
    rw [mapLoads, hcached]
    exact (path_of_cachedMap? release hcached).append (path_of_load hload)
  | externalBad hcached hload =>
    rw [mapLoads, hcached]
    exact (path_of_cachedMap? release hcached).append (path_of_load hload)
  | externalRead hcached hload =>
    rw [mapLoads, hcached]
    exact ((path_of_cachedMap? release hcached).append (path_of_load hload)).append
      ((t.stamped _ _ _).path release)

/-- The way of the world while a frame is traced. -/
lemma path_frame (t : Tracer σ) (release : Release) (f : StackFrame) (s : State σ) :
    Path t.services release s.world (t.frameLoads release f s)
      (t.frame release f s).2.world := by
  have hsource := path_source t release f.fileName s
  have hcourse := frameCourse t release f s
  generalize (t.frame release f s).1 = result at hcourse
  generalize (t.frame release f s).2 = s' at hcourse ⊢
  cases hcourse with
  | noFile hgot =>
    rw [hgot] at hsource
    simpa only [frameLoads, hgot, List.append_nil] using hsource
  | noPlace hgot hplace =>
    rw [hgot] at hsource
    simpa only [frameLoads, hgot, hplace, List.append_nil] using hsource
  | noMap hgot hplace hmap =>
    rw [hgot] at hsource
    simpa only [frameLoads, hgot, hplace] using hsource.append hmap.path
  | resolved hgot hplace hmap =>
    rw [hgot] at hsource
    simpa only [frameLoads, hgot, hplace] using hsource.append hmap.path

/-- **The way of the world in a run.** While frames are traced, the world changes by readings of the
clock and by the loads of the run, and by nothing else. -/
theorem path_frames (t : Tracer σ) (release : Release) (fs : List StackFrame) (s : State σ) :
    Path t.services release s.world (t.loads release fs s) (t.frames release fs s).2.world := by
  induction fs generalizing s with
  | nil => exact .done s.world
  | cons f rest ih => exact (path_frame t release f s).append (ih (t.frame release f s).2)

end Paths

end Tracer

/-! ### Worlds that keep a log -/

/-- A world that keeps a log: whatever is fetched is noted in it with the answer, and nothing
else. -/
structure Services.Logs {α : Type} (services : Services σ) (log : σ → List α)
    (entry : String → Except Fetch.Error Bytes → α) : Prop where
  fetch (location : String) (w : σ) : log (services.fetch location w).2 =
    log w ++ [entry location (services.fetch location w).1]
  stored (key : ArtifactKey) (w : σ) : log (services.stored key w).2 = log w
  keep (key : ArtifactKey) (data : Bytes) (w : σ) : log (services.keep key data w) = log w
  now (w : σ) : log (services.now w).2 = log w

namespace Tracer

variable {α : Type} {t : Tracer σ} {services : Services σ} {log : σ → List α}
  {entry : String → Except Fetch.Error Bytes → α} {release : Release}

/-- A load notes what it asks of the fetcher. -/
lemma log_load (logs : services.Logs log entry) (location : String) (w : σ) :
    log (services.load release location w).2 = log w ++
      ((Load.fetch? services release ⟨location, w⟩).map fun p => entry p.1 p.2).toList := by
  have hcourse := services.loadCourse release location w
  generalize (services.load release location w).1 = result at hcourse
  generalize (services.load release location w).2 = w' at hcourse ⊢
  have hlog := logs.stored (release.key location) w
  rw [Load.fetch?]
  cases hcourse with
  | held hstored =>
    rw [hstored] at hlog ⊢
    simpa using hlog
  | @lost e w₁ w₂ hstored hfetch =>
    have hnoted := logs.fetch location w₁
    rw [hstored] at hlog ⊢
    rw [hfetch, hlog] at hnoted
    simpa [hfetch] using hnoted
  | @fetched data w₁ w₂ hstored hfetch =>
    have hnoted := logs.fetch location w₁
    rw [hstored] at hlog ⊢
    rw [hfetch, hlog] at hnoted
    rw [logs.keep]
    simpa [hfetch] using hnoted

/-- A path notes what its loads ask of the fetcher. -/
lemma Path.log_eq (logs : services.Logs log entry) {w w' : σ} {loads : List (Load σ)}
    (h : Path services release w loads w') :
    log w' = log w ++
      (loads.filterMap (Load.fetch? services release)).map fun p => entry p.1 p.2 := by
  induction h with
  | done => simp
  | now _ ih => rw [ih, logs.now]
  | @load w w' location loads _ ih =>
    rw [ih, log_load logs, List.append_assoc, List.filterMap_cons]
    cases Load.fetch? services release ⟨location, w⟩ with
    | none => rfl
    | some p => rfl

/-- **What a log has.** While frames are traced, just what is asked of the fetcher is noted in the
log of the world, in the same order. -/
theorem log_frames (logs : t.services.Logs log entry) (release : Release) (fs : List StackFrame)
    (s : State σ) :
    log (t.frames release fs s).2.world =
      log s.world ++ (t.fetches release fs s).map fun p => entry p.1 p.2 :=
  (path_frames t release fs s).log_eq logs

/-- The log of a trace. -/
lemma log_trace (logs : t.services.Logs log entry) (release : Release) (fs : List StackFrame)
    (s : State σ) :
    log (t.trace release (some fs) s).2.world =
      log s.world ++ (t.fetches release fs s).map fun p => entry p.1 p.2 :=
  log_frames logs release fs s

end Tracer

namespace World

/-- The services keep what depends neither on what the world remembers nor, if something can be put
into it, on the store. -/
lemma keeps_services {P : World → Prop} (origin : Origin) (limit : ℕ) (use : StoreUse)
    (hfetch : ∀ {w : World} (asked opened : List String), P w → P { w with asked, opened })
    (hput : ∀ readFails, use = .shared readFails false →
      ∀ {w : World} (store : Store), P w → P { w with store }) :
    (services origin limit use).Keeps P where
  get := by
    intro store hstore key w h
    cases use with
    | none => cases hstore
    | shared readFails writeFails =>
      obtain rfl : storeAccess readFails writeFails = store := Option.some.inj hstore
      rw [storeAccess]
      cases readFails <;> exact h
  put := by
    intro store hstore key data w h
    cases use with
    | none => cases hstore
    | shared readFails writeFails =>
      obtain rfl : storeAccess readFails writeFails = store := Option.some.inj hstore
      rw [storeAccess]
      cases writeFails with
      | true => exact h
      | false => exact hput readFails rfl _ h
  fetch := by
    intro location w h
    obtain ⟨asked, opened, heq⟩ := exists_fetch_snd_eq origin limit location w
    change P (fetch origin limit location w).2
    rw [heq]
    exact hfetch asked opened h

end World

end Retrace
