import Mathlib
import Retrace.Proofs.Tracer.CacheTransparency
import Retrace.Proofs.Tracer.Loads
import Retrace.Proofs.Tracer.Replay

/-!
# The store changes nothing

A store is there to save fetching. It may fail at any time, and it may have an artifact or not: as
long as what it gives is what would be fetched, a tracer with the store gives the same frames and
leaves the same cache as the tracer without it (`trace_eq_withoutStore`). Its failures may follow
any pattern, as nothing is asked of it but that every single get of the run fails, gives nothing or
gives what is at the location.

The two runs are compared step by step. They load the same locations in the same order, and each
load gives the same, though in the one run it may come from the store (`Beside.load`). So when no
get gives an object, the same is asked of the fetcher.

A store also takes time. The two runs are compared by the same clock: its readings may be any, but
they are told by a part of the world of its own, which neither the store nor the fetcher changes
(`Services.Timed`).
-/

namespace Retrace

variable {σ κ : Type}

/-- The clock is a part of the world of its own: its readings depend on that part only, and using
the store and fetching leave it alone. -/
structure Services.Timed (services : Services σ) (clock : σ → κ) : Prop where
  keeps (c : κ) : services.Keeps fun w => clock w = c
  now_fst {w w' : σ} (h : clock w' = clock w) : (services.now w').1 = (services.now w).1
  now_snd {w w' : σ} (h : clock w' = clock w) :
    clock (services.now w').2 = clock (services.now w).2

namespace Tracer

/-- The tracer without its store. -/
def withoutStore (t : Tracer σ) : Tracer σ :=
  { t with services := { t.services with store := none } }

/-- What the store gives for a load, if it gives anything, is what is at the location. -/
def Load.GetsAnswer (services : Services σ) (answer : Contents) (release : Release)
    (load : Load σ) : Prop :=
  ∀ store, services.store = some store → ∀ data,
    (store.get (release.key load.location) load.world).1 = .ok (some data) →
      answer load.location = .ok data

/-- The store gives nothing for a load: it fails, or it has no object. -/
def Load.GetsNothing (services : Services σ) (release : Release) (load : Load σ) : Prop :=
  ∀ store, services.store = some store → ∀ data,
    (store.get (release.key load.location) load.world).1 ≠ .ok (some data)

/-- What gives nothing gives nothing else than what is at the location. -/
lemma Load.GetsNothing.getsAnswer {services : Services σ} {answer : Contents} {release : Release}
    {load : Load σ} (h : load.GetsNothing services release) :
    load.GetsAnswer services answer release :=
  fun store hstore data hget => absurd hget (h store hstore data)

/-- A store that is empty, or that fails to give what it has, gives nothing in a run that leaves it
so. -/
lemma getsNothing_of_bare {t : Tracer σ} {bare : σ → Prop} (keeps : t.services.Keeps bare)
    (hnow : ∀ w, bare w → bare (t.services.now w).2)
    (hget : ∀ store, t.services.store = some store → ∀ key w data, bare w →
      (store.get key w).1 ≠ .ok (some data))
    {s : State σ} (hs : bare s.world) (release : Release) (fs : List StackFrame) :
    ∀ load ∈ t.loads release fs s, load.GetsNothing t.services release := by
  have hbare := (path_frames t release fs s).forall_world keeps hnow hs
  exact fun load hload store hstore data =>
    hget store hstore (release.key load.location) load.world data (hbare.1 load hload)

/-! ### Two runs -/

/-- The state of a run with the store and that of the run without it. -/
structure Beside (good : σ → Prop) (clock : σ → κ) (s s' : State σ) : Prop where
  cache_eq : s'.cache = s.cache
  left : good s.world
  right : good s'.world
  clock_eq : clock s'.world = clock s.world

/-- The states that a step of a run with the store and the same step of the run without it leave,
when they load the same locations. -/
structure Alongside (good : σ → Prop) (clock : σ → κ) (s s' : State σ)
    (loads loads' : List (Load σ)) : Prop where
  beside : Beside good clock s s'
  locations : loads'.map Load.location = loads.map Load.location

/-- One step after another. -/
lemma Alongside.append {good : σ → Prop} {clock : σ → κ} {s₁ s₁' s₂ s₂' : State σ}
    {loads loads' others others' : List (Load σ)}
    (h : Alongside good clock s₁ s₁' loads loads')
    (h' : Alongside good clock s₂ s₂' others others') :
    Alongside good clock s₂ s₂' (loads ++ others) (loads' ++ others') where
  beside := h'.beside
  locations := by rw [List.map_append, List.map_append, h.locations, h'.locations]

section Steps

variable {t : Tracer σ} {good : σ → Prop} {answer : Contents} {clock : σ → κ} {release : Release}
  {location : String} {s s' s₁ : State σ}
  (steady : t.withoutStore.services.Steady good answer) (keeps : t.services.Keeps good)
  (timed : t.services.Timed clock)

include steady timed

/-- Both runs read the same time, and what they look for in their caches comes to the same. -/
lemma Beside.read {α : Type} (h : Beside good clock s s') (use : ℕ → Cache → α × Cache) :
    let out := use (t.services.now s.world).1 s.cache
    let out' := use (t.services.now s'.world).1 s'.cache
    out'.1 = out.1 ∧ Beside good clock ⟨out.2, (t.services.now s.world).2⟩
      ⟨out'.2, (t.services.now s'.world).2⟩ := by
  intro out out'
  have hout : out' = out := by
    simp only [out, out', timed.now_fst h.clock_eq, h.cache_eq]
  exact ⟨congrArg Prod.fst hout, congrArg Prod.snd hout, steady.now h.left, steady.now h.right,
    timed.now_snd h.clock_eq⟩

/-- Looking for the content of a generated file in the cache. -/
lemma Beside.cachedSource? {found : Option Bytes} (h : Beside good clock s s')
    (hcached : t.cachedSource? location s = (found, s₁)) :
    ∃ s₁', t.withoutStore.cachedSource? location s' = (found, s₁') ∧ Beside good clock s₁ s₁' := by
  obtain ⟨rfl, rfl⟩ := Prod.mk.inj hcached
  obtain ⟨hfound, hs₁⟩ := h.read steady timed fun now cache => cache.source? now location
  exact ⟨_, Prod.ext hfound rfl, hs₁⟩

/-- Both runs read the clock alike for what their caches are to take in. -/
lemma Beside.stamps {α : Type} (h : Beside good clock s s') (m : ExpiringMap α) (key : String) :
    let stamps := t.stamps m key s.world
    let stamps' := t.withoutStore.stamps m key s'.world
    stamps'.1 = stamps.1 ∧ stamps'.2.1 = stamps.2.1 ∧
      Beside good clock ⟨s.cache, stamps.2.2⟩ ⟨s'.cache, stamps'.2.2⟩ := by
  obtain ⟨hfirst, hread⟩ := h.read steady timed fun now cache => (now, cache)
  obtain ⟨hsecond, hagain⟩ := hread.read steady timed fun now cache => (now, cache)
  have hservices : t.withoutStore.services.now = t.services.now := rfl
  simp only [Tracer.stamps, hservices]
  split
  · exact ⟨hfirst, hfirst, h⟩
  · split
    · exact ⟨hfirst, hsecond, hagain⟩
    · exact ⟨hfirst, hfirst, hread⟩

/-- Keeping the content of a generated file in the cache. -/
lemma Beside.keepSource (h : Beside good clock s s') (location : String) (data : Bytes) :
    Beside good clock (t.keepSource location data s)
      (t.withoutStore.keepSource location data s') := by
  obtain ⟨cache, w'⟩ := s'
  obtain rfl : cache = s.cache := h.cache_eq
  obtain ⟨hroom, hnow, hs⟩ := h.stamps steady timed s.cache.sources location
  refine ⟨?_, hs.left, hs.right, hs.clock_eq⟩
  simp only [Tracer.keepSource, Cache.keepSource, hroom, hnow]

/-- Looking for a map in the cache. -/
lemma Beside.cachedMap? {key : String} {found : Option SourceMap} (h : Beside good clock s s')
    (hcached : t.cachedMap? key s = (found, s₁)) :
    ∃ s₁', t.withoutStore.cachedMap? key s' = (found, s₁') ∧ Beside good clock s₁ s₁' := by
  obtain ⟨rfl, rfl⟩ := Prod.mk.inj hcached
  obtain ⟨hfound, hs₁⟩ := h.read steady timed fun now cache => cache.map? now key
  exact ⟨_, Prod.ext hfound rfl, hs₁⟩

/-- Keeping a map in the cache. -/
lemma Beside.keepMap (h : Beside good clock s s') (key : String) (map : SourceMap) :
    Beside good clock (t.keepMap key map s) (t.withoutStore.keepMap key map s') := by
  obtain ⟨cache, w'⟩ := s'
  obtain rfl : cache = s.cache := h.cache_eq
  obtain ⟨hroom, hnow, hs⟩ := h.stamps steady timed s.cache.maps key
  refine ⟨?_, hs.left, hs.right, hs.clock_eq⟩
  simp only [Tracer.keepMap, Cache.keepMap, hroom, hnow]

include keeps

omit timed in
/-- With the store a load gives what is at the location, be it from the store or fetched. -/
lemma load_eq_answer {w : σ} (h : good w)
    (hget : Load.GetsAnswer t.services answer release ⟨location, w⟩) :
    (t.services.load release location w).1 = answer location := by
  have hcourse := t.services.loadCourse release location w
  generalize (t.services.load release location w).1 = result at hcourse ⊢
  generalize (t.services.load release location w).2 = w' at hcourse
  have hgood := keeps.stored (release.key location) h
  have hfetched : (t.services.fetch location (t.services.stored (release.key location) w).2).1 =
      answer location := steady.fetch_eq location hgood
  cases hcourse with
  | held hstored =>
    obtain ⟨store, hstore, hgot⟩ := Services.exists_get_of_stored hstored
    exact (hget store hstore _ (congrArg Prod.fst hgot)).symm
  | lost hstored hfetch =>
    rw [hstored, hfetch] at hfetched
    exact hfetched
  | fetched hstored hfetch =>
    rw [hstored, hfetch] at hfetched
    exact hfetched

/-- A load gives the same in both runs. -/
lemma Beside.load {result : Except Fetch.Error Bytes} (h : Beside good clock s s')
    (hload : t.load release location s = (result, s₁))
    (hget : Load.GetsAnswer t.services answer release ⟨location, s.world⟩) :
    ∃ s₁', t.withoutStore.load release location s' = (result, s₁') ∧
      Beside good clock s₁ s₁' := by
  obtain ⟨rfl, rfl⟩ := Prod.mk.inj hload
  have hanswer : (t.services.load release location s.world).1 = answer location :=
    load_eq_answer steady keeps h.left hget
  have hanswer' : (t.withoutStore.services.load release location s'.world).1 = answer location :=
    steady.load_eq release location h.right
  have hclock : clock (t.services.load release location s.world).2 = clock s.world :=
    (timed.keeps (clock s.world)).load release location rfl
  have hclock' : clock (t.withoutStore.services.load release location s'.world).2 =
      clock s.world := by
    rw [Services.load_of_store_eq_none steady.store]
    exact (timed.keeps (clock s.world)).fetch location h.clock_eq
  exact ⟨_, Prod.ext (hanswer'.trans hanswer.symm) rfl, h.cache_eq,
    keeps.load release location h.left, steady.load release location h.right,
    hclock'.trans hclock.symm⟩

/-- Loading a generated file that the caches do not have. -/
lemma Beside.loadSource {result : Except Fetch.Error Bytes} {s₂ : State σ}
    (h : Beside good clock s s') (hcached : t.cachedSource? location s = (none, s₁))
    (hload : t.load release location s₁ = (result, s₂))
    (hgets : ∀ load ∈ t.sourceLoads location s, load.GetsAnswer t.services answer release) :
    ∃ s₁', t.withoutStore.cachedSource? location s' = (none, s₁') ∧
      ∃ s₂', t.withoutStore.load release location s₁' = (result, s₂') ∧
        Alongside good clock s₂ s₂' (t.sourceLoads location s)
          (t.withoutStore.sourceLoads location s') := by
  obtain ⟨s₁', hcached', hs₁⟩ := h.cachedSource? steady timed hcached
  simp only [sourceLoads, hcached] at hgets
  obtain ⟨s₂', hload', hs₂⟩ :=
    hs₁.load steady keeps timed hload (hgets _ (List.mem_singleton_self _))
  simp only [sourceLoads, hcached, hcached']
  exact ⟨s₁', rfl, s₂', hload', hs₂, rfl⟩

/-- Both runs get the same generated file. -/
lemma Beside.source {result : Except Fetch.Error Bytes} (h : Beside good clock s s')
    (hsource : t.source release location s = (result, s₁))
    (hgets : ∀ load ∈ t.sourceLoads location s, load.GetsAnswer t.services answer release) :
    ∃ s₁', t.withoutStore.source release location s' = (result, s₁') ∧
      Alongside good clock s₁ s₁' (t.sourceLoads location s)
        (t.withoutStore.sourceLoads location s') := by
  have hcourse := sourceCourse t release location s
  rw [hsource] at hcourse
  cases hcourse with
  | hit hcached =>
    obtain ⟨s₁', hcached', hs₁⟩ := h.cachedSource? steady timed hcached
    simp only [Tracer.source, sourceLoads, hcached, hcached']
    exact ⟨s₁', rfl, hs₁, rfl⟩
  | lost hcached hload =>
    obtain ⟨_, hcached', s₁', hload', hs₁⟩ := h.loadSource steady keeps timed hcached hload hgets
    exact ⟨s₁', by simp only [Tracer.source, hcached', hload'], hs₁⟩
  | loaded hcached hload =>
    obtain ⟨_, hcached', s₂', hload', hs₂⟩ := h.loadSource steady keeps timed hcached hload hgets
    exact ⟨_, by simp only [Tracer.source, hcached', hload'],
      hs₂.beside.keepSource steady timed location _, hs₂.locations⟩

/-- Loading a map that the caches do not have. -/
lemma Beside.loadMap {url : String} {result : Except Fetch.Error Bytes} {s₂ : State σ}
    (h : Beside good clock s s') (hcached : t.cachedMap? url s = (none, s₁))
    (hload : t.load release url s₁ = (result, s₂))
    (hgets : ∀ load ∈ t.mapLoads (.external url) s, load.GetsAnswer t.services answer release) :
    ∃ s₁', t.withoutStore.cachedMap? url s' = (none, s₁') ∧
      ∃ s₂', t.withoutStore.load release url s₁' = (result, s₂') ∧
        Alongside good clock s₂ s₂' (t.mapLoads (.external url) s)
          (t.withoutStore.mapLoads (.external url) s') := by
  obtain ⟨s₁', hcached', hs₁⟩ := h.cachedMap? steady timed hcached
  simp only [mapLoads, hcached] at hgets
  obtain ⟨s₂', hload', hs₂⟩ :=
    hs₁.load steady keeps timed hload (hgets _ (List.mem_singleton_self _))
  simp only [mapLoads, hcached, hcached']
  exact ⟨s₁', rfl, s₂', hload', hs₂, rfl⟩

/-- Both runs get the map at a place in the same way. -/
lemma Beside.mapCourse {place : MapLocation} {found : Except Failure SourceMap}
    (h : Beside good clock s s') (hmap : MapCourse t release location s place found s₁)
    (hgets : ∀ load ∈ t.mapLoads place s, load.GetsAnswer t.services answer release) :
    ∃ s₁', MapCourse t.withoutStore release location s' place found s₁' ∧
      Alongside good clock s₁ s₁' (t.mapLoads place s) (t.withoutStore.mapLoads place s') := by
  cases hmap with
  | @hit place map _ hcached =>
    obtain ⟨s₁', hcached', hs₁⟩ := h.cachedMap? steady timed hcached
    refine ⟨s₁', .hit hcached', hs₁, ?_⟩
    cases place with
    | inline data => rfl
    | external url =>
      change t.cachedMap? url s = _ at hcached
      change t.withoutStore.cachedMap? url s' = _ at hcached'
      simp only [mapLoads, hcached, hcached']
  | inlineBad hcached hdecode =>
    obtain ⟨s₁', hcached', hs₁⟩ := h.cachedMap? steady timed hcached
    exact ⟨s₁', .inlineBad hcached' hdecode, hs₁, rfl⟩
  | inlineRead hcached hdecode =>
    obtain ⟨s₂', hcached', hs₂⟩ := h.cachedMap? steady timed hcached
    exact ⟨_, .inlineRead hcached' hdecode, hs₂.keepMap steady timed _ _, rfl⟩
  | externalLost hcached hload =>
    obtain ⟨_, hcached', s₁', hload', hs₁⟩ := h.loadMap steady keeps timed hcached hload hgets
    exact ⟨s₁', .externalLost hcached' hload', hs₁⟩
  | externalBad hcached hload hdecode =>
    obtain ⟨_, hcached', s₁', hload', hs₁⟩ := h.loadMap steady keeps timed hcached hload hgets
    exact ⟨s₁', .externalBad hcached' hload' hdecode, hs₁⟩
  | externalRead hcached hload hdecode =>
    obtain ⟨_, hcached', s₂', hload', hs₂⟩ := h.loadMap steady keeps timed hcached hload hgets
    exact ⟨_, .externalRead hcached' hload' hdecode, hs₂.beside.keepMap steady timed _ _,
      hs₂.locations⟩

/-- A frame comes to the same in both runs. -/
lemma Beside.frame {f : StackFrame} {result : Except Failure TracedFrame}
    (h : Beside good clock s s') (hframe : t.frame release f s = (result, s₁))
    (hgets : ∀ load ∈ t.frameLoads release f s, load.GetsAnswer t.services answer release) :
    ∃ s₁', t.withoutStore.frame release f s' = (result, s₁') ∧
      Alongside good clock s₁ s₁' (t.frameLoads release f s)
        (t.withoutStore.frameLoads release f s') := by
  obtain ⟨hgetsSource, hgetsRest⟩ := List.forall_mem_append.mp hgets
  have hcourse := frameCourse t release f s
  rw [hframe] at hcourse
  cases hcourse with
  | noFile hsource =>
    obtain ⟨s₂', hsource', hs₂⟩ := h.source steady keeps timed hsource hgetsSource
    simp only [frameLoads, hsource, hsource', List.append_nil]
    exact ⟨s₂', (FrameCourse.noFile hsource').frame_eq, hs₂⟩
  | noPlace hsource hplace =>
    obtain ⟨s₂', hsource', hs₂⟩ := h.source steady keeps timed hsource hgetsSource
    simp only [frameLoads, hsource, hsource', hplace, List.append_nil]
    exact ⟨s₂', (FrameCourse.noPlace hsource' hplace).frame_eq, hs₂⟩
  | noMap hsource hplace hmap =>
    obtain ⟨s₂', hsource', hs₂⟩ := h.source steady keeps timed hsource hgetsSource
    simp only [hsource, hplace] at hgetsRest
    obtain ⟨s₁', hmap', hs₁⟩ := hs₂.beside.mapCourse steady keeps timed hmap hgetsRest
    simp only [frameLoads, hsource, hsource', hplace]
    exact ⟨s₁', (FrameCourse.noMap hsource' hplace hmap').frame_eq, hs₂.append hs₁⟩
  | resolved hsource hplace hmap =>
    obtain ⟨s₂', hsource', hs₂⟩ := h.source steady keeps timed hsource hgetsSource
    simp only [hsource, hplace] at hgetsRest
    obtain ⟨s₁', hmap', hs₁⟩ := hs₂.beside.mapCourse steady keeps timed hmap hgetsRest
    simp only [frameLoads, hsource, hsource', hplace]
    exact ⟨s₁', (FrameCourse.resolved hsource' hplace hmap').frame_eq, hs₂.append hs₁⟩

/-- Frames come to the same in both runs, one after the other. -/
lemma Beside.frames {fs : List StackFrame} (h : Beside good clock s s')
    (hgets : ∀ load ∈ t.loads release fs s, load.GetsAnswer t.services answer release) :
    (t.withoutStore.frames release fs s').1 = (t.frames release fs s).1 ∧
      Alongside good clock (t.frames release fs s).2 (t.withoutStore.frames release fs s').2
        (t.loads release fs s) (t.withoutStore.loads release fs s') := by
  induction fs generalizing s s' with
  | nil => exact ⟨rfl, h, rfl⟩
  | cons f rest ih =>
    obtain ⟨hgetsFrame, hgetsRest⟩ := List.forall_mem_append.mp hgets
    obtain ⟨s₁', hframe', hs₁⟩ :=
      h.frame (f := f) steady keeps timed (Prod.eta _).symm hgetsFrame
    obtain ⟨hsame, hrest⟩ := ih hs₁.beside hgetsRest
    simp only [Tracer.frames, loads, hframe']
    exact ⟨congrArg (List.cons _) hsame, hs₁.append hrest⟩

/-! ### What is fetched -/

omit timed in
/-- When the store gives nothing for a load, the fetcher is asked. -/
lemma Load.fetch?_eq {load : Load σ} (h : good load.world)
    (hnothing : load.GetsNothing t.services release) :
    load.fetch? t.services release = some (load.location, answer load.location) := by
  have hgood := keeps.stored (release.key load.location) h
  rw [Load.fetch?]
  split
  · next data w hstored =>
    obtain ⟨store, hstore, hget⟩ := Services.exists_get_of_stored hstored
    exact absurd (congrArg Prod.fst hget) (hnothing store hstore data)
  · next w hstored =>
    rw [hstored] at hgood
    exact congrArg (fun result => some (load.location, result)) (steady.fetch_eq _ hgood)

omit timed in
/-- When the store gives nothing in a run, the fetcher is asked for all that is loaded. -/
lemma fetches_eq {fs : List StackFrame} (h : good s.world)
    (hnothing : ∀ load ∈ t.loads release fs s, load.GetsNothing t.services release) :
    t.fetches release fs s = ((t.loads release fs s).map Load.location).map
      fun location => (location, answer location) := by
  have hgood := (path_frames t release fs s).forall_world keeps (fun _ => steady.now) h
  have hfetch : ∀ load ∈ t.loads release fs s,
      load.fetch? t.services release = some (load.location, answer load.location) :=
    fun load hload => Load.fetch?_eq steady keeps (hgood.1 load hload) (hnothing load hload)
  rw [fetches, List.filterMap_congr hfetch, List.map_map]
  exact congrFun List.filterMap_eq_map _

end Steps

/-! ### The trace -/

variable {t : Tracer σ} {good : σ → Prop} {answer : Contents} {clock : σ → κ}

/-- **The store changes nothing.** A tracer has a fetcher that always gives the same answer for a
location, and in a run each get from its store fails, gives nothing or gives that answer. Then a
stack trace comes out as without the store and leaves the same in the cache, whatever the cache had
before. And when no get gives an object, the same is asked of the fetcher in the same order. -/
theorem trace_eq_withoutStore (steady : t.withoutStore.services.Steady good answer)
    (keeps : t.services.Keeps good) (timed : t.services.Timed clock) (release : Release)
    (stack : Option (List StackFrame)) {s : State σ} (hs : good s.world)
    (hgets : ∀ load ∈ t.loads release (stack.getD []) s,
      load.GetsAnswer t.services answer release) :
    let run := t.trace release stack s
    let plain := t.withoutStore.trace release stack s
    run.1 = plain.1 ∧ run.2.cache = plain.2.cache ∧
      ((∀ load ∈ t.loads release (stack.getD []) s, load.GetsNothing t.services release) →
        t.fetches release (stack.getD []) s =
          t.withoutStore.fetches release (stack.getD []) s) := by
  intro run plain
  cases stack with
  | none => exact ⟨rfl, rfl, fun _ => rfl⟩
  | some fs =>
    rw [Option.getD_some] at hgets ⊢
    have hstart : Beside good clock s s := ⟨rfl, hs, hs, rfl⟩
    obtain ⟨hsame, hend⟩ := hstart.frames steady keeps timed hgets
    refine ⟨congrArg Except.ok hsame.symm, hend.beside.cache_eq.symm, fun hnothing => ?_⟩
    have keeps' : t.withoutStore.services.Keeps good :=
      { get := fun hstore => by cases hstore
        put := fun hstore => by cases hstore
        fetch := keeps.fetch }
    have hnothing' : ∀ load ∈ t.withoutStore.loads release fs s,
        load.GetsNothing t.withoutStore.services release := by
      intro load _ store hstore
      cases hstore
    have hfetches' : t.withoutStore.fetches release fs s = _ :=
      fetches_eq (t := t.withoutStore) steady keeps' hs hnothing'
    rw [fetches_eq steady keeps hs hnothing, hfetches', hend.locations]

end Tracer

/-! ### A file with and without a store -/

namespace World

/-- The services keep what there is to fetch. -/
lemma keeps_sameToFetch (origin : Origin) (limit : ℕ) (use : StoreUse) (w : World) :
    (services origin limit use).Keeps (SameToFetch w) :=
  keeps_services origin limit use (fun _ _ h => h) fun _ _ _ _ h => h

/-- What nothing can be put into stays empty. -/
lemma keeps_empty (origin : Origin) (limit : ℕ) (readFails : Bool) :
    (services origin limit (.shared readFails true)).Keeps fun w => w.store = .empty :=
  keeps_services origin limit _ (fun _ _ h => h) fun _ huse => by cases huse

/-- The clock of the world is a part of its own. -/
lemma timed_services (origin : Origin) (limit : ℕ) (use : StoreUse) :
    (services origin limit use).Timed clock where
  keeps := fun _ => keeps_services origin limit use (fun _ _ h => h) fun _ _ _ _ h => h
  now_fst := fun h => h
  now_snd := fun h => congrArg Nat.succ h

/-- The world keeps a log of what is fetched from memory. -/
lemma logs_services (limit : ℕ) (use : StoreUse) :
    (services .memory limit use).Logs asked fun location _ => location where
  fetch := fun _ _ => rfl
  stored := by
    intro key w
    cases use with
    | none => rfl
    | shared readFails writeFails => cases readFails <;> rfl
  keep := by
    intro key data w
    cases use with
    | none => rfl
    | shared readFails writeFails => cases writeFails <;> rfl
  now := fun _ => rfl

end World

namespace Tracer

/-- A tracer with a store into which nothing can be put. -/
def reading : Tracer World :=
  World.tracer Settings.default .memory (.shared false true)

/-- The world with a file and its map in memory, whose store has the file. -/
def partlyStored : World :=
  { fromMemory with store := ⟨[("1/1/disk/rel/app.js", script)]⟩ }

/-- What is loaded for the file: itself and its map, each unless the cache has it. -/
lemma loads_firstPlace {t : Tracer σ} {release : Release} {s s₁ : State σ}
    (hsource : t.source release "app.js" s = (.ok script, s₁)) :
    t.loads release [firstPlace] s =
      t.sourceLoads "app.js" s ++ t.mapLoads (.external "app.js.map") s₁ := by
  have hname : firstPlace.fileName = "app.js" := rfl
  simp only [loads, frameLoads, hname, hsource, mapOf?_script, List.append_nil]

/-- What the file loads there. -/
lemma loads_partlyStored :
    reading.loads (versioned "1") [firstPlace] ⟨.make 256 3600, partlyStored⟩ =
      [⟨"app.js", { partlyStored with clock := 1 }⟩,
        ⟨"app.js.map", { partlyStored with clock := 3 }⟩] := by
  obtain ⟨s₁, hsource, hmap⟩ :
      ∃ s₁, reading.source (versioned "1") "app.js" ⟨.make 256 3600, partlyStored⟩ =
          (.ok script, s₁) ∧
        reading.mapLoads (.external "app.js.map") s₁ =
          [⟨"app.js.map", { partlyStored with clock := 3 }⟩] :=
    ⟨_, rfl, rfl⟩
  rw [loads_firstPlace hsource, hmap]
  rfl

/-- Where the store has the file, it has what is in memory. -/
lemma getsAnswer_partlyStored :
    ∀ load ∈ reading.loads (versioned "1") [firstPlace] ⟨.make 256 3600, partlyStored⟩,
      load.GetsAnswer reading.services
        (fun location => (World.fetch .memory Settings.default.maxArtifactBytes location
          partlyStored).1) (versioned "1") := by
  rw [loads_partlyStored]
  intro load hload store hstore data hget
  obtain rfl : World.storeAccess false true = store := Option.some.inj hstore
  simp only [List.mem_cons, List.not_mem_nil, or_false] at hload
  rcases hload with rfl | rfl
  · have hscript : some script = some data := Except.ok.inj hget
    rw [← Option.some.inj hscript]
    rfl
  · have hnone : none = some data := Except.ok.inj hget
    cases hnone

/-- Where the store has nothing, it stays so. -/
lemma getsNothing_fromMemory (cache : Cache) :
    ∀ load ∈ reading.loads (versioned "1") [firstPlace] ⟨cache, fromMemory⟩,
      load.GetsNothing reading.services (versioned "1") := by
  have keepsEmpty : reading.services.Keeps fun w => w.store = .empty :=
    World.keeps_empty .memory Settings.default.maxArtifactBytes false
  refine getsNothing_of_bare keepsEmpty (fun _ h => h) ?_ rfl (versioned "1") [firstPlace]
  intro store hstore key w data hempty hget
  obtain rfl : World.storeAccess false true = store := Option.some.inj hstore
  have hnone : w.store.get? key = some data := Except.ok.inj hget
  rw [hempty] at hnone
  cases hnone

/-- With the file in the store and the map not, the tracer fetches the map only, and gives the same
as without the store, which would fetch both. With nothing in the store it fetches what it fetches
without the store. -/
theorem reading_eq_withoutStore :
    let start (w : World) : State World := ⟨.make 256 3600, w⟩
    let run := reading.trace (versioned "1") (some [firstPlace]) (start partlyStored)
    let plain := reading.withoutStore.trace (versioned "1") (some [firstPlace]) (start partlyStored)
    let empty := reading.trace (versioned "1") (some [firstPlace]) (start fromMemory)
    let plainEmpty :=
      reading.withoutStore.trace (versioned "1") (some [firstPlace]) (start fromMemory)
    run.1 = plain.1 ∧ run.2.cache = plain.2.cache ∧ run.2.world.asked = ["app.js.map"] ∧
      empty.2.world.asked = plainEmpty.2.world.asked := by
  intro start run plain empty plainEmpty
  have steady (w : World) : reading.withoutStore.services.Steady (World.SameToFetch w) _ :=
    World.steady_services .memory Settings.default.maxArtifactBytes w
  have keeps (w : World) : reading.services.Keeps (World.SameToFetch w) :=
    World.keeps_sameToFetch .memory Settings.default.maxArtifactBytes (.shared false true) w
  have timed : reading.services.Timed World.clock :=
    World.timed_services .memory Settings.default.maxArtifactBytes (.shared false true)
  obtain ⟨hsame, hcache, -⟩ := trace_eq_withoutStore (steady partlyStored) (keeps partlyStored)
    timed (versioned "1") (some [firstPlace]) (s := start partlyStored) ⟨rfl, rfl, rfl⟩
    getsAnswer_partlyStored
  have hnothing := getsNothing_fromMemory (.make 256 3600)
  obtain ⟨-, -, hfetches⟩ := trace_eq_withoutStore (steady fromMemory) (keeps fromMemory) timed
    (versioned "1") (some [firstPlace]) (s := start fromMemory) ⟨rfl, rfl, rfl⟩
    fun load hload => (hnothing load hload).getsAnswer
  have logs : reading.services.Logs World.asked fun location _ => location :=
    World.logs_services Settings.default.maxArtifactBytes (.shared false true)
  have logs' : reading.withoutStore.services.Logs World.asked fun location _ => location :=
    World.logs_services Settings.default.maxArtifactBytes .none
  refine ⟨hsame, hcache, ?_, ?_⟩
  · have hlog := log_trace logs (versioned "1") [firstPlace] (start partlyStored)
    rw [fetches, loads_partlyStored] at hlog
    exact hlog
  · have hlog := log_trace logs (versioned "1") [firstPlace] (start fromMemory)
    have hlog' := log_trace logs' (versioned "1") [firstPlace] (start fromMemory)
    have hsameFetches : reading.fetches (versioned "1") [firstPlace] (start fromMemory) =
        reading.withoutStore.fetches (versioned "1") [firstPlace] (start fromMemory) :=
      hfetches hnothing
    rw [← hsameFetches] at hlog'
    exact hlog.trans hlog'.symm

end Tracer

end Retrace
