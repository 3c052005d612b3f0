import Mathlib
import Retrace.Proofs.Cache.Contents
import Retrace.Proofs.Tracer.Stamps

/-!
# Where the answers of a tracer come from

A tracer answers from what it loads and from what its cache kept of earlier loads. A `Ledger` says
of each world what may have been loaded, and what a cache may hold, and `Ledger.Kept` states of
single steps that they keep to it: whatever is loaded is in the ledger, what is made of it and put
into the cache is, and what is in the ledger stays there.

From the steps it follows for whole runs. Every frame comes out as `Derived` says, from entries of
the ledger, and what is left in the cache is in the ledger (`Ledger.Kept.frames_spec`), also after
any number of calls (`Ledger.sound_afterCalls`). Different ledgers give different theorems about the
same runs: that answers are those of a tracer without a cache, or that all that a cache holds is in
the store under the release of an earlier call.
-/

namespace Retrace

namespace Tracer

variable {σ : Type}

/-! ### Calls -/

/-- A call of a tracer. -/
structure Call where
  release : Release
  stack : Option (List StackFrame)

/-- The locations of the frames of a stack trace. -/
def fileNames (fs : List StackFrame) : List String :=
  fs.map StackFrame.fileName

/-- The locations of the frames of a call. -/
def Call.fileNames (call : Call) : List String :=
  Tracer.fileNames (call.stack.getD [])

/-- What a tracer has changed after some calls, one after the other. -/
def afterCalls (t : Tracer σ) : List Call → State σ → State σ
  | [], s => s
  | call :: rest, s => afterCalls t rest (t.trace call.release call.stack s).2

/-- The key under which a cache keeps the map at a place. -/
def mapKey (location : String) : MapLocation → String
  | .inline _ => inlineKey location
  | .external url => url

/-- The location that the names of the sources of a map are relative to. -/
def baseOf (location : String) : MapLocation → String
  | .inline _ => location
  | .external url => url

/-! ### Ledgers -/

/-- What may have been loaded in a world, and what a cache may hold there. -/
structure Ledger (σ : Type) where
  /-- The worlds that the ledger is about. -/
  world : σ → Prop
  /-- What loading a location may have given. -/
  loaded : σ → String → Except Fetch.Error Bytes → Prop
  /-- What a cache may hold as the content of a generated file. -/
  source : σ → String → Bytes → Prop
  /-- What a cache may hold as a map. -/
  map : σ → String → SourceMap → Prop

/-- Why a generated file has no map that can be read, by the ledger of a world. -/
inductive NoMap (ledger : Ledger σ) (w : σ) (location : String) : MapLocation → Failure → Prop
  | inline {data : Bytes} {failure : Failure} (h : decode? location data = .error failure) :
      NoMap ledger w location (.inline data) failure
  | fetch {url : String} {e : Fetch.Error} (h : ledger.loaded w url (.error e)) :
      NoMap ledger w location (.external url) (.fetch url e)
  | external {url : String} {data : Bytes} {failure : Failure}
      (h : ledger.loaded w url (.ok data)) (hdecode : decode? url data = .error failure) :
      NoMap ledger w location (.external url) failure

/-- What getting a generated file may give, by the ledger of a world. -/
def SourceEntry (ledger : Ledger σ) (w : σ) (location : String) : Except Fetch.Error Bytes → Prop
  | .ok data => ledger.source w location data
  | .error e => ledger.loaded w location (.error e)

/-- What getting the map at a place may give, by the ledger of a world. -/
def MapEntry (ledger : Ledger σ) (w : σ) (location : String) (place : MapLocation) :
    Except Failure SourceMap → Prop
  | .ok map => ledger.map w (mapKey location place) map
  | .error failure => NoMap ledger w location place failure

/-- How a frame may come out, by the ledger of a world. -/
inductive Derived (ledger : Ledger σ) (w : σ) (window : ℕ) (f : StackFrame) :
    Except Failure TracedFrame → Prop
  | noFile {e : Fetch.Error} (h : ledger.loaded w f.fileName (.error e)) :
      Derived ledger w window f (.error (.fetch f.fileName e))
  | noPlace {data : Bytes} {failure : Failure} (h : ledger.source w f.fileName data)
      (hplace : mapOf? f.fileName data = .error failure) :
      Derived ledger w window f (.error failure)
  | noMap {data : Bytes} {place : MapLocation} {failure : Failure}
      (h : ledger.source w f.fileName data) (hplace : mapOf? f.fileName data = .ok place)
      (hmap : NoMap ledger w f.fileName place failure) :
      Derived ledger w window f (.error failure)
  | resolved {data : Bytes} {place : MapLocation} {map : SourceMap}
      (h : ledger.source w f.fileName data) (hplace : mapOf? f.fileName data = .ok place)
      (hmap : ledger.map w (mapKey f.fileName place) map) :
      Derived ledger w window f (resolve? window f map (baseOf f.fileName place))

namespace Ledger

variable {ledger : Ledger σ} {t : Tracer σ} {release : Release} {since : ℕ} {files : List String}
  {s s' s'' : State σ}

/-- What the ledger says of a cache in one world it says in another. -/
structure Stays (ledger : Ledger σ) (w w' : σ) : Prop where
  source {location : String} {data : Bytes} (h : ledger.source w location data) :
    ledger.source w' location data
  map {key : String} {map : SourceMap} (h : ledger.map w key map) : ledger.map w' key map

/-- The steps of a tracer under a release keep to the ledger when they are about some generated
files, and no reading of the clock is before `since`. -/
structure Kept (ledger : Ledger σ) (t : Tracer σ) (release : Release) (since : ℕ)
    (files : List String) : Prop where
  world_now {w : σ} (h : ledger.world w) : ledger.world (t.services.now w).2
  stays_now {w : σ} (h : ledger.world w) : ledger.Stays w (t.services.now w).2
  le_now {w : σ} (h : ledger.world w) : since ≤ (t.services.now w).1
  world_load {w : σ} (location : String) (h : ledger.world w) :
    ledger.world (t.services.load release location w).2
  stays_load {w : σ} (location : String) (h : ledger.world w) :
    ledger.Stays w (t.services.load release location w).2
  loaded {w : σ} (location : String) (h : ledger.world w) :
    ledger.loaded (t.services.load release location w).2 location
      (t.services.load release location w).1
  source {w : σ} {location : String} {data : Bytes} (h : ledger.world w)
    (hfile : location ∈ files) (hload : ledger.loaded w location (.ok data)) :
    ledger.source w location data
  inlineMap {w : σ} {location : String} {text data : Bytes} {map : SourceMap}
    (h : ledger.world w) (hfile : location ∈ files) (hsource : ledger.source w location text)
    (hplace : mapOf? location text = .ok (.inline data)) (hmap : decode? location data = .ok map) :
    ledger.map w (inlineKey location) map
  externalMap {w : σ} {location url : String} {text data : Bytes} {map : SourceMap}
    (h : ledger.world w) (hfile : location ∈ files) (hsource : ledger.source w location text)
    (hplace : mapOf? location text = .ok (.external url))
    (hload : ledger.loaded w url (.ok data)) (hmap : decode? url data = .ok map) :
    ledger.map w url map

/-- A world that the ledger is about, with a cache that serves nothing from the time `since` on but
what is in the ledger. -/
structure Sound (ledger : Ledger σ) (since : ℕ) (s : State σ) : Prop where
  world : ledger.world s.world
  cache : s.cache.Holds since (ledger.source s.world) (ledger.map s.world)

/-- A sound state that may follow another. -/
structure Next (ledger : Ledger σ) (since : ℕ) (s s' : State σ) : Prop where
  sound : ledger.Sound since s'
  stays : ledger.Stays s.world s'.world

/-- What the ledger says of a world it says of this world. -/
lemma Stays.refl (w : σ) : ledger.Stays w w :=
  ⟨id, id⟩

/-- What stays for two steps stays for both. -/
lemma Stays.trans {w w' w'' : σ} (h : ledger.Stays w w') (h' : ledger.Stays w' w'') :
    ledger.Stays w w'' :=
  ⟨fun hs => h'.source (h.source hs), fun hm => h'.map (h.map hm)⟩

/-- Two steps, one after the other. -/
lemma Next.trans (h : ledger.Next since s s') (h' : ledger.Next since s' s'') :
    ledger.Next since s s'' :=
  ⟨h'.sound, h.stays.trans h'.stays⟩

/-- What a cache may hold in one world it may hold where the ledger says the same. -/
lemma Stays.holds {w w' : σ} {cache : Cache} (h : ledger.Stays w w')
    (hcache : cache.Holds since (ledger.source w) (ledger.map w)) :
    cache.Holds since (ledger.source w') (ledger.map w') :=
  ⟨hcache.sources.imp fun _ _ hs => h.source hs, hcache.maps.imp fun _ _ hm => h.map hm⟩

section Steps

variable (kept : ledger.Kept t release since files)

include kept

/-! ### The cache -/

/-- The content that the cache has is in the ledger. -/
lemma Kept.cachedSource?_spec {location : String} {found : Option Bytes}
    (hs : ledger.Sound since s) (heq : t.cachedSource? location s = (found, s')) :
    ledger.Next since s s' ∧ ∀ data, found = some data → ledger.source s'.world location data := by
  obtain ⟨rfl, rfl⟩ := Prod.mk.inj heq
  have hstays := kept.stays_now hs.world
  refine ⟨⟨⟨kept.world_now hs.world, hstays.holds (hs.cache.source? _ location)⟩, hstays⟩, ?_⟩
  intro data hdata
  exact hstays.source (hs.cache.sources.of_get? (kept.le_now hs.world) hdata)

/-- The map that the cache has is in the ledger. -/
lemma Kept.cachedMap?_spec {key : String} {found : Option SourceMap}
    (hs : ledger.Sound since s) (heq : t.cachedMap? key s = (found, s')) :
    ledger.Next since s s' ∧ ∀ map, found = some map → ledger.map s'.world key map := by
  obtain ⟨rfl, rfl⟩ := Prod.mk.inj heq
  have hstays := kept.stays_now hs.world
  refine ⟨⟨⟨kept.world_now hs.world, hstays.holds (hs.cache.map? _ key)⟩, hstays⟩, ?_⟩
  intro map hmap
  exact hstays.map (hs.cache.maps.of_get? (kept.le_now hs.world) hmap)

/-- Reading the clock for what the cache is to take in. -/
lemma Kept.world_stamped {α : Type} {m : ExpiringMap α} {key : String} {w w' : σ} {roomAt now : ℕ}
    (h : t.Stamped m key w roomAt now w') (hw : ledger.world w) :
    ledger.world w' ∧ ledger.Stays w w' :=
  h.world (P := fun w' => ledger.world w' ∧ ledger.Stays w w')
    (fun _ h' => ⟨kept.world_now h'.1, h'.2.trans (kept.stays_now h'.1)⟩) ⟨hw, .refl w⟩

/-- Keeping content that is in the ledger. -/
lemma Kept.next_keepSource {location : String} {data : Bytes} (hs : ledger.Sound since s)
    (hdata : ledger.source s.world location data) :
    ledger.Next since s (t.keepSource location data s) :=
  have ⟨hworld, hstays⟩ :=
    kept.world_stamped (t.stamped s.cache.sources location s.world) hs.world
  ⟨⟨hworld, hstays.holds (hs.cache.keepSource _ _ hdata)⟩, hstays⟩

/-- Keeping a map that is in the ledger. -/
lemma Kept.next_keepMap {key : String} {map : SourceMap} (hs : ledger.Sound since s)
    (hmap : ledger.map s.world key map) : ledger.Next since s (t.keepMap key map s) :=
  have ⟨hworld, hstays⟩ := kept.world_stamped (t.stamped s.cache.maps key s.world) hs.world
  ⟨⟨hworld, hstays.holds (hs.cache.keepMap _ _ hmap)⟩, hstays⟩

/-- What is loaded is in the ledger, and loading leaves the cache alone. -/
lemma Kept.load_spec {location : String} {result : Except Fetch.Error Bytes}
    (hs : ledger.Sound since s) (heq : t.load release location s = (result, s')) :
    ledger.Next since s s' ∧ ledger.loaded s'.world location result := by
  obtain ⟨rfl, rfl⟩ := Prod.mk.inj heq
  have hstays := kept.stays_load location hs.world
  exact ⟨⟨⟨kept.world_load location hs.world, hstays.holds hs.cache⟩, hstays⟩,
    kept.loaded location hs.world⟩

/-! ### Files and maps -/

/-- A generated file is in the ledger, or that it cannot be loaded. -/
lemma Kept.source_spec {location : String} {result : Except Fetch.Error Bytes}
    (hs : ledger.Sound since s) (hfile : location ∈ files)
    (heq : t.source release location s = (result, s')) :
    ledger.Next since s s' ∧ SourceEntry ledger s'.world location result := by
  rw [Tracer.source] at heq
  split at heq
  · next data s₁ hcached =>
    obtain ⟨rfl, rfl⟩ := Prod.mk.inj heq
    obtain ⟨hnext, hfound⟩ := kept.cachedSource?_spec hs hcached
    exact ⟨hnext, hfound data rfl⟩
  · next s₁ hcached =>
    obtain ⟨hnext₁, -⟩ := kept.cachedSource?_spec hs hcached
    split at heq
    · next e s₂ hload =>
      obtain ⟨rfl, rfl⟩ := Prod.mk.inj heq
      obtain ⟨hnext₂, hloaded⟩ := kept.load_spec hnext₁.sound hload
      exact ⟨hnext₁.trans hnext₂, hloaded⟩
    · next data s₂ hload =>
      obtain ⟨rfl, rfl⟩ := Prod.mk.inj heq
      obtain ⟨hnext₂, hloaded⟩ := kept.load_spec hnext₁.sound hload
      have hdata := kept.source hnext₂.sound.world hfile hloaded
      have hnext₃ := kept.next_keepSource hnext₂.sound hdata
      exact ⟨(hnext₁.trans hnext₂).trans hnext₃, hnext₃.stays.source hdata⟩

/-- A map that a generated file holds itself is in the ledger, or that it cannot be read. -/
lemma Kept.inlineMap_spec {location : String} {text data : Bytes}
    {result : Except Failure SourceMap} (hs : ledger.Sound since s) (hfile : location ∈ files)
    (hsource : ledger.source s.world location text)
    (hplace : mapOf? location text = .ok (.inline data))
    (heq : t.inlineMap location data s = (result, s')) :
    ledger.Next since s s' ∧ MapEntry ledger s'.world location (.inline data) result := by
  rw [Tracer.inlineMap] at heq
  split at heq
  · next map s₁ hcached =>
    obtain ⟨rfl, rfl⟩ := Prod.mk.inj heq
    obtain ⟨hnext, hfound⟩ := kept.cachedMap?_spec hs hcached
    exact ⟨hnext, hfound map rfl⟩
  · next s₁ hcached =>
    obtain ⟨hnext₁, -⟩ := kept.cachedMap?_spec hs hcached
    split at heq
    · next failure hdecode =>
      obtain ⟨rfl, rfl⟩ := Prod.mk.inj heq
      exact ⟨hnext₁, .inline hdecode⟩
    · next map hdecode =>
      obtain ⟨rfl, rfl⟩ := Prod.mk.inj heq
      have hmap := kept.inlineMap hnext₁.sound.world hfile (hnext₁.stays.source hsource) hplace
        hdecode
      have hnext₂ := kept.next_keepMap hnext₁.sound hmap
      exact ⟨hnext₁.trans hnext₂, hnext₂.stays.map hmap⟩

/-- A map at a location of its own is in the ledger, or that it cannot be loaded or read. -/
lemma Kept.externalMap_spec {location url : String} {text : Bytes}
    {result : Except Failure SourceMap} (hs : ledger.Sound since s) (hfile : location ∈ files)
    (hsource : ledger.source s.world location text)
    (hplace : mapOf? location text = .ok (.external url))
    (heq : t.externalMap release url s = (result, s')) :
    ledger.Next since s s' ∧ MapEntry ledger s'.world location (.external url) result := by
  rw [Tracer.externalMap] at heq
  split at heq
  · next map s₁ hcached =>
    obtain ⟨rfl, rfl⟩ := Prod.mk.inj heq
    obtain ⟨hnext, hfound⟩ := kept.cachedMap?_spec hs hcached
    exact ⟨hnext, hfound map rfl⟩
  · next s₁ hcached =>
    obtain ⟨hnext₁, -⟩ := kept.cachedMap?_spec hs hcached
    split at heq
    · next e s₂ hload =>
      obtain ⟨rfl, rfl⟩ := Prod.mk.inj heq
      obtain ⟨hnext₂, hloaded⟩ := kept.load_spec hnext₁.sound hload
      exact ⟨hnext₁.trans hnext₂, .fetch hloaded⟩
    · next data s₂ hload =>
      obtain ⟨hnext₂, hloaded⟩ := kept.load_spec hnext₁.sound hload
      have hnext := hnext₁.trans hnext₂
      split at heq
      · next failure hdecode =>
        obtain ⟨rfl, rfl⟩ := Prod.mk.inj heq
        exact ⟨hnext, .external hloaded hdecode⟩
      · next map hdecode =>
        obtain ⟨rfl, rfl⟩ := Prod.mk.inj heq
        have hmap := kept.externalMap hnext₂.sound.world hfile (hnext.stays.source hsource) hplace
          hloaded hdecode
        have hnext₃ := kept.next_keepMap hnext₂.sound hmap
        exact ⟨hnext.trans hnext₃, hnext₃.stays.map hmap⟩

/-- The map of a generated file is in the ledger under the key of its place, or why it has none. -/
lemma Kept.map_spec {location : String} {place : MapLocation} {text : Bytes}
    {result : Except Failure (SourceMap × String)} (hs : ledger.Sound since s)
    (hfile : location ∈ files) (hsource : ledger.source s.world location text)
    (hplace : mapOf? location text = .ok place)
    (heq : t.map release location place s = (result, s')) :
    ledger.Next since s s' ∧ ∃ found, MapEntry ledger s'.world location place found ∧
      result = found.map fun map => (map, baseOf location place) := by
  cases place with
  | inline data =>
    obtain ⟨rfl, rfl⟩ := Prod.mk.inj heq
    obtain ⟨hnext, hentry⟩ := kept.inlineMap_spec hs hfile hsource hplace rfl
    exact ⟨hnext, _, hentry, rfl⟩
  | external url =>
    obtain ⟨rfl, rfl⟩ := Prod.mk.inj heq
    obtain ⟨hnext, hentry⟩ := kept.externalMap_spec hs hfile hsource hplace rfl
    exact ⟨hnext, _, hentry, rfl⟩

/-! ### Frames and traces -/

/-- A frame comes out as the ledger says. -/
lemma Kept.frame_spec {f : StackFrame} {result : Except Failure TracedFrame}
    (hs : ledger.Sound since s) (hf : f.fileName ∈ files)
    (heq : t.frame release f s = (result, s')) :
    ledger.Next since s s' ∧ Derived ledger s'.world t.contextLines f result := by
  rw [Tracer.frame] at heq
  split at heq
  · next e s₁ hsource =>
    obtain ⟨rfl, rfl⟩ := Prod.mk.inj heq
    obtain ⟨hnext, hentry⟩ := kept.source_spec hs hf hsource
    exact ⟨hnext, .noFile hentry⟩
  · next data s₁ hsource =>
    obtain ⟨hnext₁, hdata⟩ := kept.source_spec hs hf hsource
    split at heq
    · next failure hplace =>
      obtain ⟨rfl, rfl⟩ := Prod.mk.inj heq
      exact ⟨hnext₁, .noPlace hdata hplace⟩
    · next place hplace =>
      rcases hmap : t.map release f.fileName place s₁ with ⟨found, s₂⟩
      obtain ⟨hnext₂, found', hentry, rfl⟩ := kept.map_spec hnext₁.sound hf hdata hplace hmap
      rw [hmap] at heq
      have hnext := hnext₁.trans hnext₂
      have hdata' := hnext₂.stays.source hdata
      cases found' with
      | error failure =>
        obtain ⟨rfl, rfl⟩ := Prod.mk.inj heq
        exact ⟨hnext, .noMap hdata' hplace hentry⟩
      | ok map =>
        obtain ⟨rfl, rfl⟩ := Prod.mk.inj heq
        exact ⟨hnext, .resolved hdata' hplace hentry⟩

/-- Every frame of a stack trace comes out as the ledger of some world says. -/
lemma Kept.frames_spec {fs : List StackFrame} (hs : ledger.Sound since s)
    (hfs : ∀ f ∈ fs, f.fileName ∈ files) :
    ledger.Sound since (t.frames release fs s).2 ∧
      List.Forall₂ (fun f traced => ∃ w result, ledger.world w ∧
        Derived ledger w t.contextLines f result ∧ traced = outcome f result)
        fs (t.frames release fs s).1 := by
  induction fs generalizing s with
  | nil => exact ⟨hs, .nil⟩
  | cons f rest ih =>
    obtain ⟨hnext, hderived⟩ := kept.frame_spec hs (hfs f List.mem_cons_self) rfl
    obtain ⟨hsound, hrest⟩ := ih hnext.sound fun g hg => hfs g (List.mem_cons_of_mem f hg)
    exact ⟨hsound, .cons ⟨_, _, hnext.sound.world, hderived, rfl⟩ hrest⟩

/-- A call leaves a sound state. -/
lemma Kept.sound_trace {stack : Option (List StackFrame)} (hs : ledger.Sound since s)
    (hfs : ∀ f ∈ stack.getD [], f.fileName ∈ files) :
    ledger.Sound since (t.trace release stack s).2 := by
  cases stack with
  | none => exact hs
  | some fs => exact (kept.frames_spec hs hfs).1

end Steps

/-- Calls leave a sound state. -/
lemma sound_afterCalls {calls : List Call}
    (kept : ∀ call ∈ calls, ledger.Kept t call.release since call.fileNames)
    (hs : ledger.Sound since s) : ledger.Sound since (t.afterCalls calls s) := by
  induction calls generalizing s with
  | nil => exact hs
  | cons call rest ih =>
    have hcall := kept call List.mem_cons_self
    exact ih (fun c hc => kept c (List.mem_cons_of_mem call hc))
      (hcall.sound_trace hs fun f hf => List.mem_map_of_mem hf)

end Ledger

end Tracer

end Retrace
