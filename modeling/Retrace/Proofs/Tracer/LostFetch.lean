import Mathlib
import Retrace.Proofs.Cache.Changes
import Retrace.Proofs.Store.Optional
import Retrace.Proofs.Tracer.BrokenMaps
import Retrace.Proofs.Tracer.FetchOnce
import Retrace.Proofs.Tracer.Invariants

/-!
# Fetches that fail

A frame fails if its generated file cannot be fetched, or the map that this file names (`Loses`).
The tracer remembers nothing of that: there is no entry for the artifact in the cache and no object
in the store, and besides the clock only this much has changed (`LeavesNoTrace`). What had expired
may be gone from the cache. If it is the map that was lost, the generated file has been got before
and may have been kept, in the cache and in the store.

So when the frame is traced again right away, the fetcher is asked for the artifact again, and the
frame comes to what the answer gives (`Loses.asked_again`).
-/

namespace Retrace

variable {σ : Type}

namespace Tracer

variable {t : Tracer σ} {release : Release} {f : StackFrame} {s s' : State σ}

/-! ### Frames that fail as an artifact cannot be fetched -/

/-- The ways in which a frame fails for an artifact that cannot be fetched, by the role of the
artifact. -/
inductive Loses (t : Tracer σ) (release : Release) (f : StackFrame) (s : State σ) :
    Role → String → Fetch.Error → State σ → Prop
  | file {e : Fetch.Error} {s₁ s' : State σ}
      (hcached : t.cachedSource? f.fileName s = (none, s₁))
      (hload : t.load release f.fileName s₁ = (.error e, s')) :
      Loses t release f s .file f.fileName e s'
  | map {text : Bytes} {url : String} {e : Fetch.Error} {s₁ s₂ s' : State σ}
      (hsource : t.source release f.fileName s = (.ok text, s₁))
      (hplace : mapOf? f.fileName text = .ok (.external url))
      (hcached : t.cachedMap? url s₁ = (none, s₂))
      (hload : t.load release url s₂ = (.error e, s')) :
      Loses t release f s .map url e s'

/-- Looking up places does not fail as fetching does. -/
lemma resolve?_ne_fetch {window : ℕ} {map : SourceMap} {base location : String} {e : Fetch.Error} :
    resolve? window f map base ≠ .error (.fetch location e) := by
  intro h
  rw [resolve?] at h
  split at h <;> cases h

/-- A frame that fails as something cannot be fetched does so in one of the ways. -/
lemma exists_loses {location : String} {e : Fetch.Error}
    (h : (t.frame release f s).1 = .error (.fetch location e)) :
    ∃ role, Loses t release f s role location e (t.frame release f s).2 := by
  have hcourse := frameCourse t release f s
  rw [h] at hcourse
  generalize (t.frame release f s).2 = s' at hcourse ⊢
  generalize hresult : Except.error (Failure.fetch location e) = result at hcourse
  cases hcourse with
  | noFile hsource =>
    obtain ⟨rfl, rfl⟩ := Failure.fetch.inj (Except.error.inj hresult)
    have hgot := sourceCourse t release f.fileName s
    rw [hsource] at hgot
    dsimp only at hgot
    cases hgot with
    | lost hcached hload => exact ⟨.file, .file hcached hload⟩
  | noPlace _ hplace =>
    obtain rfl := Except.error.inj hresult
    rcases exists_of_mapOf?_eq_error hplace with h | ⟨_, h⟩ <;> cases h
  | noMap hsource hplace hmap =>
    obtain rfl := Except.error.inj hresult
    cases hmap with
    | externalLost hcached hload => exact ⟨.map, .map hsource hplace hcached hload⟩
    | inlineBad _ hdecode =>
      obtain ⟨_, h⟩ := exists_of_decode?_eq_error hdecode
      cases h
    | externalBad _ _ hdecode =>
      obtain ⟨_, h⟩ := exists_of_decode?_eq_error hdecode
      cases h
  | resolved => exact absurd hresult.symm resolve?_ne_fetch

/-! ### What such a frame leaves -/

/-- The time that the clock shows when it is read next. -/
def nextReading (t : Tracer σ) (s : State σ) : ℕ :=
  (t.services.now s.world).1

/-- Content that is found is marked as used. -/
lemma marks_of_cachedSource? {location : String} {data : Bytes}
    (hcached : t.cachedSource? location s = (some data, s')) :
    s.cache.sources.Marks (t.nextReading s) location data s'.cache.sources := by
  obtain ⟨hfound, rfl⟩ := Prod.mk.inj hcached
  exact ExpiringMap.marks_of_found hfound

/-- Content that is not found has no entry afterwards. -/
lemma sheds_of_cachedSource? {location : String}
    (hcached : t.cachedSource? location s = (none, s')) :
    s.cache.sources.Sheds (t.nextReading s) s'.cache.sources ∧
      s'.cache.sources.entries.get? location = none := by
  obtain ⟨hmissed, rfl⟩ := Prod.mk.inj hcached
  exact ExpiringMap.sheds_of_missed hmissed

/-- A map that is not found has no entry afterwards. -/
lemma sheds_of_cachedMap? {key : String} (hcached : t.cachedMap? key s = (none, s')) :
    s.cache.maps.Sheds (t.nextReading s) s'.cache.maps ∧
      s'.cache.maps.entries.get? key = none := by
  obtain ⟨hmissed, rfl⟩ := Prod.mk.inj hcached
  exact ExpiringMap.sheds_of_missed hmissed

/-- Content whose entry has not expired is found. -/
lemma cachedSource?_fst_of_isLive {location : String} {entry : Entry Bytes}
    (h : s.cache.sources.entries.get? location = some entry)
    (hlive : entry.isLive (t.nextReading s)) :
    (t.cachedSource? location s).1 = some entry.value :=
  ExpiringMap.get?_fst_of_isLive h hlive

/-- Content without an entry is not found. -/
lemma cachedSource?_of_none (t : Tracer σ) {location : String}
    (h : s.cache.sources.entries.get? location = none) :
    t.cachedSource? location s = (none, (t.cachedSource? location s).2) :=
  Prod.ext (ExpiringMap.get?_fst_of_none h (t.nextReading s)) rfl

/-- A map without an entry is not found. -/
lemma cachedMap?_of_none (t : Tracer σ) {key : String} (h : s.cache.maps.entries.get? key = none) :
    t.cachedMap? key s = (none, (t.cachedMap? key s).2) :=
  Prod.ext (ExpiringMap.get?_fst_of_none h (t.nextReading s)) rfl

/-- What getting a generated file leaves of the contents in the cache. If the file is lost, what had
expired may be gone. If it is got, the cache has it and marks it as used, or it is loaded and taken
in, once the cache has been looked through, at the times that the clock shows after loading. -/
inductive SourcesAfter (t : Tracer σ) (release : Release) (location : String) (s : State σ) :
    Except Fetch.Error Bytes → ExpiringMap Bytes → Prop
  | lost {e : Fetch.Error} {after : ExpiringMap Bytes}
      (hlook : s.cache.sources.Sheds (t.nextReading s) after) :
      SourcesAfter t release location s (.error e) after
  | used {data : Bytes} {after : ExpiringMap Bytes}
      (hused : s.cache.sources.Marks (t.nextReading s) location data after) :
      SourcesAfter t release location s (.ok data) after
  | added {data : Bytes} {looked after : ExpiringMap Bytes} {roomAt now : ℕ} {w : σ}
      (hlook : s.cache.sources.Sheds (t.nextReading s) looked)
      (hmissed : looked.entries.get? location = none)
      (hstamped : t.Stamped looked location
        (t.load release location (t.cachedSource? location s).2).2.world roomAt now w)
      (hadd : looked.TakesIn roomAt now location data after) :
      SourcesAfter t release location s (.ok data) after

/-- After a generated file has been got, an entry for it holds its content. -/
lemma SourcesAfter.value_eq {location : String} {text : Bytes} {after : ExpiringMap Bytes}
    (h : SourcesAfter t release location s (.ok text) after) {e : Entry Bytes}
    (he : after.entries.get? location = some e) : e.value = text := by
  cases h with
  | used hused =>
    obtain ⟨e', -, hvalue, -, hmarked⟩ := hused.marked
    obtain rfl := Option.some.inj (he.symm.trans hmarked)
    exact hvalue
  | @added _ looked _ _ _ _ _ hmissed _ hadd =>
    by_cases hclosed : looked.capacity = 0
    · rw [hadd.of_closed hclosed, hmissed] at he
      cases he
    · rw [hadd.unless_closed hclosed] at he
      obtain rfl := Option.some.inj he
      rfl

/-- A frame that has failed has left no more than this. The store is as it was, or the generated
file of the frame has been fetched and put into it. The contents in the cache are what getting that
file leaves. And of the maps in the cache none is gone but such as had expired. -/
structure LeavesNoTrace (t : Tracer σ) (objects : σ → String → Option Bytes) (release : Release)
    (f : StackFrame) (s s' : State σ) : Prop where
  store : objects s'.world = objects s.world ∨
    ∃ data, ⟨.file, f.fileName, .ok data⟩ ∈ t.frameAsks release f s ∧
      objects s.world (release.key f.fileName).text = none ∧
      objects s'.world =
        Function.update (objects s.world) (release.key f.fileName).text (some data)
  sources : SourcesAfter t release f.fileName s (t.source release f.fileName s).1 s'.cache.sources
  maps : s.cache.maps.Sheds (t.nextReading (t.source release f.fileName s).2) s'.cache.maps

/-- What a frame comes to by its generated file, in the state in which the file has been got. -/
def byFile (t : Tracer σ) (release : Release) (f : StackFrame) (s : State σ) :
    Except Fetch.Error Bytes → Except Failure TracedFrame
  | .error e => .error (.fetch f.fileName e)
  | .ok text =>
    match mapOf? f.fileName text with
    | .error failure => .error failure
    | .ok place =>
      match (t.map release f.fileName place s).1 with
      | .error failure => .error failure
      | .ok (map, base) => resolve? t.contextLines f map base

/-- What a frame comes to by an answer of the fetcher, to what it was asked for the frame. -/
def byAnswer (t : Tracer σ) (release : Release) (f : StackFrame) (s : State σ) (a : Ask) :
    Except Failure TracedFrame :=
  match a.role with
  | .file => t.byFile release f (t.source release f.fileName s).2 a.answer
  | .map => byLoaded t.contextLines f a.location a.answer

/-- A state in which a frame that has failed for an artifact is traced again right away. It has the
cache that the frame has left, and a store that holds what it held then. If the cache had the
generated file, the entry has not expired since. And what the fetcher is asked for again, except the
artifact, it answers as it did. -/
structure RightAway (t : Tracer σ) (objects : σ → String → Option Bytes) (release : Release)
    (f : StackFrame) (location : String) (s left next : State σ) : Prop where
  cache : next.cache = left.cache
  store : objects next.world = objects left.world
  live {e : Entry Bytes} (h : s.cache.sources.entries.get? f.fileName = some e)
    (hlive : e.isLive (t.nextReading s)) : e.isLive (t.nextReading next)
  answers {a b : Ask} (ha : a ∈ t.frameAsks release f s) (hb : b ∈ t.frameAsks release f next)
    (hsame : a.Same b) (hother : a.location ≠ location) : b.answer = a.answer

/-- Loading in a state is loading in its world. -/
lemma services_load {location : String} {result : Except Fetch.Error Bytes}
    (hload : t.load release location s = (result, s')) :
    t.services.load release location s.world = (result, s'.world) := by
  obtain ⟨rfl, rfl⟩ := Prod.mk.inj hload
  rfl

/-- Getting a generated file leaves of the contents in the cache what it should. -/
lemma sourcesAfter_source (t : Tracer σ) (release : Release) (location : String)
    (honce : s.cache.Once) :
    SourcesAfter t release location s (t.source release location s).1
      (t.source release location s).2.cache.sources := by
  have hcourse := sourceCourse t release location s
  generalize (t.source release location s).1 = result at hcourse ⊢
  generalize (t.source release location s).2 = s' at hcourse ⊢
  cases hcourse with
  | hit hcached => exact .used (marks_of_cachedSource? hcached)
  | lost hcached hload =>
    rw [cache_of_load hload]
    exact .lost (sheds_of_cachedSource? hcached).1
  | @loaded data s₁ s₂ hcached hload =>
    obtain ⟨hlook, hmissed⟩ := sheds_of_cachedSource? hcached
    have inv := invariant_cache Cache.invariant_once t release
    have honce₂ : s₂.cache.Once := inv.of_load hload (inv.of_cachedSource? hcached honce)
    let stamps := t.stamps s₂.cache.sources location s₂.world
    have hadd := ExpiringMap.takesIn_insert honce₂.sources stamps.1 stamps.2.1 location data
    have hstamped : t.Stamped s₂.cache.sources location
        (t.load release location (t.cachedSource? location s).2).2.world stamps.1 stamps.2.1
        stamps.2.2 := by
      rw [hcached, hload]
      exact t.stamped s₂.cache.sources location s₂.world
    rw [← cache_of_load hload] at hlook hmissed
    exact .added hlook hmissed hstamped hadd

section Stores

variable {objects : σ → String → Option Bytes} (stores : t.services.Stores objects)

include stores

/-- Looking for the content of a generated file leaves the store alone. -/
lemma objects_of_cachedSource? {location : String} {found : Option Bytes}
    (hcached : t.cachedSource? location s = (found, s')) :
    objects s'.world = objects s.world := by
  obtain ⟨-, rfl⟩ := Prod.mk.inj hcached
  exact stores.objects_now s.world

/-- Looking for a map leaves the store alone. -/
lemma objects_of_cachedMap? {key : String} {found : Option SourceMap}
    (hcached : t.cachedMap? key s = (found, s')) : objects s'.world = objects s.world := by
  obtain ⟨-, rfl⟩ := Prod.mk.inj hcached
  exact stores.objects_now s.world

/-- For a generated file that neither the cache nor the store has the fetcher is asked. -/
lemma mem_frameAsks_file {s₁ : State σ} (hcached : t.cachedSource? f.fileName s = (none, s₁))
    (hnone : objects s₁.world (release.key f.fileName).text = none) :
    ⟨.file, f.fileName, (t.load release f.fileName s₁).1⟩ ∈ t.frameAsks release f s := by
  have hask : Load.ask? t.services release .file ⟨f.fileName, s₁.world⟩ =
      some ⟨.file, f.fileName, (t.load release f.fileName s₁).1⟩ := by
    rw [Load.ask?, stores.load_of_missing hnone]
    rfl
  rw [frameAsks, sourceLoads, hcached]
  apply List.mem_append_left
  exact List.mem_filterMap.mpr ⟨_, List.mem_cons_self, hask⟩

/-- For a map that neither the cache nor the store has the fetcher is asked. -/
lemma mem_frameAsks_map {text : Bytes} {url : String} {s₁ s₂ : State σ}
    (hsource : t.source release f.fileName s = (.ok text, s₁))
    (hplace : mapOf? f.fileName text = .ok (.external url))
    (hcached : t.cachedMap? url s₁ = (none, s₂))
    (hnone : objects s₂.world (release.key url).text = none) :
    ⟨.map, url, (t.load release url s₂).1⟩ ∈ t.frameAsks release f s := by
  have hask : Load.ask? t.services release .map ⟨url, s₂.world⟩ =
      some ⟨.map, url, (t.load release url s₂).1⟩ := by
    rw [Load.ask?, stores.load_of_missing hnone]
    rfl
  simp only [frameAsks, hsource, hplace, mapLoads, hcached]
  apply List.mem_append_right
  exact List.mem_filterMap.mpr ⟨_, List.mem_cons_self, hask⟩

/-- What getting a generated file does to the store: nothing, or the file has been fetched and is
put into it. -/
lemma objects_source {text : Bytes} {s₁ : State σ}
    (hsource : t.source release f.fileName s = (.ok text, s₁)) :
    objects s₁.world = objects s.world ∨
      ⟨.file, f.fileName, .ok text⟩ ∈ t.frameAsks release f s ∧
        objects s.world (release.key f.fileName).text = none ∧
        objects s₁.world =
          Function.update (objects s.world) (release.key f.fileName).text (some text) := by
  have hcourse := sourceCourse t release f.fileName s
  rw [hsource] at hcourse
  dsimp only at hcourse
  cases hcourse with
  | hit hcached => exact .inl (objects_of_cachedSource? stores hcached)
  | @loaded _ s₂ s₃ hcached hload =>
    have hlook := objects_of_cachedSource? stores hcached
    have hkeep : objects (t.keepSource f.fileName text s₃).world = objects s₃.world :=
      (t.stamped _ _ _).eq stores.objects_now
    rw [hkeep, ← hlook]
    rcases stores.load_got (services_load hload) with ⟨-, hsame⟩ | ⟨hnone, ⟨-, hsame⟩ | hput⟩
    · exact .inl hsame
    · exact .inl hsame
    · have hasked := mem_frameAsks_file stores hcached hnone
      rw [hload] at hasked
      exact .inr ⟨hasked, hnone, hput⟩

namespace Loses

variable {role : Role} {location : String} {e : Fetch.Error}
  (h : t.Loses release f s role location e s')

include h

/-- The fetcher has been asked for the artifact that is lost. -/
lemma mem_frameAsks : ⟨role, location, .error e⟩ ∈ t.frameAsks release f s := by
  cases h with
  | file hcached hload =>
    have hasked := mem_frameAsks_file stores hcached (stores.load_lost (services_load hload)).1
    rwa [hload] at hasked
  | map hsource hplace hcached hload =>
    have hasked := mem_frameAsks_map stores hsource hplace hcached
      (stores.load_lost (services_load hload)).1
    rwa [hload] at hasked

omit stores in
/-- There is no entry for it in the part of the cache where it was looked for. -/
lemma has_eq_false : s'.has role location = false := by
  cases h with
  | file hcached hload =>
    rw [State.has_of_cache_eq (cache_of_load hload), State.has, Dictionary.has,
      (sheds_of_cachedSource? hcached).2]
    rfl
  | map _ _ hcached hload =>
    rw [State.has_of_cache_eq (cache_of_load hload), State.has, Dictionary.has,
      (sheds_of_cachedMap? hcached).2]
    rfl

/-- There is no object for it in the store. -/
lemma objects_eq_none : objects s'.world (release.key location).text = none := by
  cases h with
  | file hcached hload =>
    obtain ⟨hnone, hsame⟩ := stores.load_lost (services_load hload)
    rw [hsame]
    exact hnone
  | map _ _ hcached hload =>
    obtain ⟨hnone, hsame⟩ := stores.load_lost (services_load hload)
    rw [hsame]
    exact hnone

/-- And not much else has changed. -/
lemma leavesNoTrace (honce : s.cache.Once) : LeavesNoTrace t objects release f s s' := by
  have hsources := sourcesAfter_source t release f.fileName honce
  have hmaps := maps_source t release f.fileName s
  cases h with
  | @file e s₁ _ hcached hload =>
    have hsource : t.source release f.fileName s = (.error e, s') := by
      rw [Tracer.source, hcached]
      dsimp only
      rw [hload]
    have hsame := (stores.load_lost (services_load hload)).2
    rw [hsource] at hmaps
    refine ⟨.inl (hsame.trans (objects_of_cachedSource? stores hcached)), ?_, ?_⟩
    · rwa [hsource] at hsources ⊢
    · rw [hmaps]
      exact .refl _ _
  | @map text url e s₁ s₂ _ hsource hplace hcached hload =>
    have hcache := cache_of_load hload
    have hsame := (stores.load_lost (services_load hload)).2
    have hstore := objects_source stores hsource
    rw [← objects_of_cachedMap? stores hcached, ← hsame] at hstore
    obtain ⟨hmissed, rfl⟩ := Prod.mk.inj hcached
    refine ⟨?_, ?_, ?_⟩
    · exact hstore.imp_right fun hput => ⟨text, hput⟩
    · rw [hsource] at hsources ⊢
      rw [hcache]
      exact hsources
    · rw [hsource] at hmaps ⊢
      rw [hcache, ← hmaps]
      exact (ExpiringMap.sheds_of_missed hmissed).1

end Loses

/-! ### The frame again -/

omit stores in
/-- A frame comes to what its generated file gives. -/
lemma frame_eq_byFile (t : Tracer σ) (release : Release) (f : StackFrame) (s : State σ) :
    (t.frame release f s).1 =
      t.byFile release f (t.source release f.fileName s).2 (t.source release f.fileName s).1 := by
  rw [frame]
  rcases t.source release f.fileName s with ⟨_ | text, s₁⟩
  · rfl
  · dsimp only [byFile]
    cases mapOf? f.fileName text with
    | error failure => rfl
    | ok place =>
      dsimp only
      rcases t.map release f.fileName place s₁ with ⟨_ | ⟨map, base⟩, s₂⟩ <;> rfl

omit stores in
/-- What the cache does not have is loaded. -/
lemma source_fst_of_missed (release : Release) {location : String} {s₁ : State σ}
    (hcached : t.cachedSource? location s = (none, s₁)) :
    (t.source release location s).1 = (t.load release location s₁).1 := by
  rw [source, hcached]
  dsimp only
  rcases t.load release location s₁ with ⟨_ | data, s₂⟩ <;> rfl

/-- What has been loaded is in the store, unless it has been fetched and there is no store. -/
lemma held_of_loaded {location : String} {data : Bytes}
    (hload : t.load release location s = (.ok data, s')) :
    objects s'.world (release.key location).text = some data ∨
      t.services.store = none ∧ objects s.world (release.key location).text = none := by
  rcases stores.load_got (services_load hload) with ⟨hheld, hsame⟩ | ⟨hnone, ⟨hstore, -⟩ | hput⟩
  · left
    rw [hsame]
    exact hheld
  · exact .inr ⟨hstore, hnone⟩
  · left
    rw [hput, Function.update_self]

/-- A generated file that has been got is got again right away, or the fetcher is asked for it a
second time. -/
lemma source_again {text : Bytes} {s₁ next : State σ} (honce : s.cache.Once)
    (hsource : t.source release f.fileName s = (.ok text, s₁))
    (hsources : next.cache.sources = s₁.cache.sources)
    (hobjects : objects next.world = objects s₁.world)
    (hlive : ∀ {e}, s.cache.sources.entries.get? f.fileName = some e →
      e.isLive (t.nextReading s) → e.isLive (t.nextReading next)) :
    objects (t.source release f.fileName next).2.world = objects next.world ∧
      ((t.source release f.fileName next).1 = .ok text ∨
        ⟨.file, f.fileName, .ok text⟩ ∈ t.frameAsks release f s ∧
          ⟨.file, f.fileName, (t.source release f.fileName next).1⟩ ∈
            t.frameAsks release f next) := by
  have hafter := sourcesAfter_source t release f.fileName honce
  rw [hsource] at hafter
  dsimp only at hafter
  rw [← hsources] at hafter
  rcases hagain : t.cachedSource? f.fileName next with ⟨found, s₂⟩
  have hlook := objects_of_cachedSource? stores hagain
  cases found with
  | some data =>
    have hhit : t.source release f.fileName next = (.ok data, s₂) := by
      rw [source, hagain]
    obtain ⟨e, he, rfl, -, -⟩ := (marks_of_cachedSource? hagain).marked
    rw [hhit, hafter.value_eq he]
    exact ⟨hlook, .inl rfl⟩
  | none =>
    have hloads := source_fst_of_missed release hagain
    have hfirst := sourceCourse t release f.fileName s
    rw [hsource] at hfirst
    dsimp only at hfirst
    cases hfirst with
    | hit hcached =>
      -- the entry that was found has not expired, so it is found again
      exfalso
      obtain ⟨e, he, -, hbefore, hmarked⟩ := (marks_of_cachedSource? hcached).marked
      rw [← hsources] at hmarked
      have hnow : e.isLive (t.nextReading next) := hlive he hbefore
      have hstill : Entry.isLive { e with lastUsed := t.nextReading s } (t.nextReading next) := hnow
      have hfound := cachedSource?_fst_of_isLive hmarked hstill
      rw [hagain] at hfound
      cases hfound
    | @loaded _ s₃ s₄ hcached hload =>
      have hkeep : objects (t.keepSource f.fileName text s₄).world = objects s₄.world :=
        (t.stamped _ _ _).eq stores.objects_now
      rw [hkeep, ← hlook] at hobjects
      rcases held_of_loaded stores hload with hheld | ⟨hstore, hnone⟩
      · rw [← hobjects] at hheld
        obtain ⟨w', hload', hsame⟩ := stores.load_of_held hheld
        have hsecond : t.source release f.fileName next =
            (.ok text, t.keepSource f.fileName text ⟨s₂.cache, w'⟩) := by
          rw [source, hagain]
          dsimp only
          rw [load, hload']
        rw [hsecond]
        refine ⟨?_, .inl rfl⟩
        rw [← hlook, ← hsame]
        exact (t.stamped _ _ w').eq stores.objects_now
      · have hnothing := stores.objects_of_store_eq_none hstore
        have hasked := mem_frameAsks_file stores hcached hnone
        rw [hload] at hasked
        refine ⟨?_, .inr ⟨hasked, ?_⟩⟩
        · funext key
          rw [hnothing, hnothing]
        · rw [hloads]
          exact mem_frameAsks_file stores hagain (hnothing _ _)

/-- When a frame that has failed is traced again right away, the fetcher is asked again for the
artifact that was lost, and the frame comes to what the answer gives. -/
lemma Loses.asked_again {role : Role} {location : String} {e : Fetch.Error} {next : State σ}
    (h : t.Loses release f s role location e s') (honce : s.cache.Once)
    (hnext : RightAway t objects release f location s s' next) :
    ∃ a ∈ t.frameAsks release f next, a.location = location ∧
      (t.frame release f next).1 = t.byAnswer release f next a := by
  have hlost := h.objects_eq_none stores
  rw [← hnext.store] at hlost
  cases h with
  | @file e s₁ _ hcached hload =>
    have hmissed : next.cache.sources.entries.get? f.fileName = none := by
      rw [hnext.cache, cache_of_load hload]
      exact (sheds_of_cachedSource? hcached).2
    have hagain := cachedSource?_of_none t hmissed
    have hnone := objects_of_cachedSource? stores hagain
    refine ⟨_, mem_frameAsks_file stores hagain ?_, rfl, ?_⟩
    · rw [hnone]
      exact hlost
    · rw [frame_eq_byFile, byAnswer, source_fst_of_missed release hagain]
  | @map text _ e s₁ s₂ _ hsource hplace hcached hload =>
    have hcache := hnext.cache.trans (cache_of_load hload)
    have hsources : next.cache.sources = s₁.cache.sources := by
      rw [hcache]
      obtain ⟨-, rfl⟩ := Prod.mk.inj hcached
      rfl
    have hstore : objects next.world = objects s₁.world := by
      rw [hnext.store, (stores.load_lost (services_load hload)).2,
        objects_of_cachedMap? stores hcached]
    obtain ⟨hsame, hfile⟩ := source_again stores honce hsource hsources hstore hnext.live
    have hmaps := maps_source t release f.fileName next
    rcases hgot : t.source release f.fileName next with ⟨result, s₃⟩
    rw [hgot] at hsame hfile hmaps
    -- once the file is got as before, the map is looked for in vain and asked for again
    have hmapped : result = .ok text → ∃ a ∈ t.frameAsks release f next, a.location = location ∧
        (t.frame release f next).1 = t.byAnswer release f next a := by
      rintro rfl
      have hmissed : s₃.cache.maps.entries.get? location = none := by
        rw [hmaps, hcache]
        exact (sheds_of_cachedMap? hcached).2
      have hagain := cachedMap?_of_none t hmissed
      have hnone := objects_of_cachedMap? stores hagain
      refine ⟨_, mem_frameAsks_map stores hgot hplace hagain ?_, rfl, ?_⟩
      · rw [hnone, hsame]
        exact hlost
      · have hplace' : t.HasMapAt release f next (.external location) :=
          ⟨text, congrArg Prod.fst hgot, hplace⟩
        rw [frame_of_missed hplace', byAnswer, mapMissed, hgot]
        rw [hgot]
        exact congrArg Prod.fst hagain
    rcases hfile with hfile | ⟨hfirst, hsecond⟩
    · exact hmapped hfile
    · by_cases hother : f.fileName = location
      · refine ⟨_, hsecond, hother, ?_⟩
        rw [frame_eq_byFile, byAnswer, hgot]
      · exact hmapped (hnext.answers hfirst hsecond ⟨rfl, rfl⟩ hother)

end Stores

/-- **Fetches that fail leave no trace.** A tracer has no store, or one that works, and its session
has come to any point. There a frame fails as an artifact cannot be fetched: its generated file, or
the map that this file names. Then there is no entry for the artifact in the part of the cache where
it was looked for, and no object in the store, and not much else has changed. And when the frame is
traced again right away, the fetcher is asked again for the artifact, and the frame comes to what
the answer gives. -/
theorem lostFetch_leavesNoTrace {objects : σ → String → Option Bytes}
    (stores : t.services.Stores objects) (capacity ttlSecs : ℕ) (w : σ) (session : List (Moment σ))
    (release : Release) (f : StackFrame) (location : String) (e : Fetch.Error) :
    let s := t.afterMoments session ⟨.make capacity ttlSecs, w⟩
    let left := (t.frame release f s).2
    (t.frame release f s).1 = .error (.fetch location e) →
      (∃ role, ⟨role, location, .error e⟩ ∈ t.frameAsks release f s ∧
        left.has role location = false) ∧
      objects left.world (release.key location).text = none ∧
      LeavesNoTrace t objects release f s left ∧
      ∀ next, RightAway t objects release f location s left next →
        ∃ a ∈ t.frameAsks release f next, a.location = location ∧
          (t.frame release f next).1 = t.byAnswer release f next a := by
  intro s left hlost
  have honce : s.cache.Once := once_afterMoments capacity ttlSecs w session
  obtain ⟨role, hloses⟩ := exists_loses hlost
  refine ⟨⟨role, ?_, ?_⟩, ?_, ?_, ?_⟩
  · exact hloses.mem_frameAsks stores
  · exact hloses.has_eq_false
  · exact hloses.objects_eq_none stores
  · exact hloses.leavesNoTrace stores honce
  · exact fun next hnext => hloses.asked_again stores honce hnext

/-! ### A map that is missing at first -/

/-- A world with a file whose map cannot be fetched. -/
def mapMissing : World :=
  { World.make ⟨fun _ => .error .missing⟩ .down with artifacts := [("app.js", .ok script)] }

/-- What a tracer with a store has changed after the file: the store holds it, and so does the
cache. -/
def scriptOnly : State World :=
  ⟨⟨⟨256, 3600000000000, [("app.js", ⟨script, 1, 3600000000001⟩)], false⟩,
    .empty 256 3600000000000⟩,
    { mapMissing with
      store := ⟨[("1/1/disk/rel/app.js", script)]⟩
      clock := 3
      asked := ["app.js", "app.js.map"] }⟩

/-- What it has changed after the file once more: it has found the file in its cache. -/
def scriptUsed : State World :=
  ⟨⟨⟨256, 3600000000000, [("app.js", ⟨script, 3, 3600000000001⟩)], false⟩,
    .empty 256 3600000000000⟩,
    { scriptOnly.world with
      clock := 5
      asked := ["app.js", "app.js.map", "app.js.map"] }⟩

/-- The file is not traced, as its map is missing. -/
lemma frame_mapMissing :
    sharing.frame (versioned "1") firstPlace ⟨.make 256 3600, mapMissing⟩ =
      (.error (.fetch "app.js.map" (.notFound .unknown)), scriptOnly) := by
  obtain ⟨s₁, hsource, s₂, hcached, hload⟩ :
      ∃ s₁, sharing.source (versioned "1") "app.js" ⟨.make 256 3600, mapMissing⟩ =
          (.ok script, s₁) ∧
        ∃ s₂, sharing.cachedMap? "app.js.map" s₁ = (none, s₂) ∧
          sharing.load (versioned "1") "app.js.map" s₂ =
            (.error (.notFound .unknown), scriptOnly) :=
    ⟨_, rfl, _, rfl, rfl⟩
  exact (FrameCourse.noMap (f := firstPlace) hsource mapOf?_script
    (.externalLost hcached hload)).frame_eq

/-- It is not traced the second time either, and only the map has been asked for. -/
lemma frame_scriptOnly :
    sharing.frame (versioned "1") firstPlace scriptOnly =
        (.error (.fetch "app.js.map" (.notFound .unknown)), scriptUsed) ∧
      sharing.frameAsks (versioned "1") firstPlace scriptOnly =
        [⟨.map, "app.js.map", .error (.notFound .unknown)⟩] := by
  obtain ⟨s₁, hsource, hasks, s₂, hcached, hload⟩ :
      ∃ s₁, sharing.source (versioned "1") firstPlace.fileName scriptOnly = (.ok script, s₁) ∧
        (sharing.sourceLoads "app.js" scriptOnly).filterMap
            (Load.ask? sharing.services (versioned "1") .file) ++
          (sharing.mapLoads (.external "app.js.map") s₁).filterMap
            (Load.ask? sharing.services (versioned "1") .map) =
          [⟨.map, "app.js.map", .error (.notFound .unknown)⟩] ∧
        ∃ s₂, sharing.cachedMap? "app.js.map" s₁ = (none, s₂) ∧
          sharing.load (versioned "1") "app.js.map" s₂ =
            (.error (.notFound .unknown), scriptUsed) :=
    ⟨_, rfl, rfl, _, rfl, rfl⟩
  have hplace : mapOf? firstPlace.fileName script = .ok (.external "app.js.map") := mapOf?_script
  constructor
  · exact (FrameCourse.noMap hsource hplace (.externalLost hcached hload)).frame_eq
  · simp only [frameAsks, hsource, hplace]
    exact hasks

/-- Once the map can be fetched it is asked for again, and the answer has it. -/
lemma asks_mended :
    sharing.frameAsks (versioned "1") firstPlace ⟨scriptUsed.cache, mended scriptUsed.world⟩ =
      [⟨.map, "app.js.map", .ok (mapData "one.ts")⟩] := by
  obtain ⟨s₁, hsource, hasks⟩ :
      ∃ s₁, sharing.source (versioned "1") firstPlace.fileName
          ⟨scriptUsed.cache, mended scriptUsed.world⟩ = (.ok script, s₁) ∧
        (sharing.sourceLoads "app.js" ⟨scriptUsed.cache, mended scriptUsed.world⟩).filterMap
            (Load.ask? sharing.services (versioned "1") .file) ++
          (sharing.mapLoads (.external "app.js.map") s₁).filterMap
            (Load.ask? sharing.services (versioned "1") .map) =
          [⟨.map, "app.js.map", .ok (mapData "one.ts")⟩] :=
    ⟨_, rfl, rfl⟩
  have hplace : mapOf? firstPlace.fileName script = .ok (.external "app.js.map") := mapOf?_script
  simp only [frameAsks, hsource, hplace]
  exact hasks

/-- A file was not traced twice as its map was missing. Once the map is there the file is traced by
it. -/
theorem missingMap_fetched_later :
    (sharing.frame (versioned "1") firstPlace scriptOnly).1 =
        .error (.fetch "app.js.map" (.notFound .unknown)) ∧
      scriptUsed.has .map "app.js.map" = false ∧
      World.storeObjects scriptUsed.world ((versioned "1").key "app.js.map").text = none ∧
      (sharing.frame (versioned "1") firstPlace
          ⟨scriptUsed.cache, mended scriptUsed.world⟩).1 = .ok (firstPlaceOf "one.ts") := by
  have working := World.working_services .memory Settings.default.maxArtifactBytes
  have stores : sharing.services.Stores World.storeObjects :=
    .shared ⟨working.store_eq, working.works, working.objects_fetch, working.objects_now⟩
  obtain ⟨hframe, hasks⟩ := frame_scriptOnly
  have hstart : sharing.afterMoments [.frame (versioned "1") firstPlace]
      ⟨.make 256 3600, mapMissing⟩ = scriptOnly :=
    congrArg Prod.snd frame_mapMissing
  have hnext : RightAway sharing World.storeObjects (versioned "1") firstPlace "app.js.map"
      scriptOnly scriptUsed ⟨scriptUsed.cache, mended scriptUsed.world⟩ :=
    { cache := rfl
      store := rfl
      live := fun {entry} h _ => by
        obtain rfl : ⟨script, 1, 3600000000001⟩ = entry := Option.some.inj h
        rfl
      answers := fun {a b} ha _ _ hother => by
        rw [hasks] at ha
        rw [List.mem_singleton.mp ha] at hother
        exact absurd rfl hother }
  have hresult := lostFetch_leavesNoTrace stores 256 3600 mapMissing
    [.frame (versioned "1") firstPlace] (versioned "1") firstPlace "app.js.map"
    (.notFound .unknown)
  simp only [hstart, hframe, forall_const] at hresult
  obtain ⟨⟨role, hrole, hentry⟩, hobject, -, hagain⟩ := hresult
  obtain ⟨a, ha, -, htraced⟩ := hagain _ hnext
  refine ⟨congrArg Prod.fst hframe, ?_, hobject, ?_⟩
  · rw [hasks] at hrole
    obtain rfl : role = .map := congrArg Ask.role (List.mem_singleton.mp hrole)
    exact hentry
  · rw [asks_mended] at ha
    obtain ⟨-, hurl⟩ := parse?_mapData (.inl rfl)
    have hresolve : resolve? sharing.contextLines firstPlace (mapTo "one.ts") "app.js.map" =
        .ok (firstPlaceOf "one.ts") := resolve?_mapTo "app.js" hurl (by cbv)
    rw [htraced, List.mem_singleton.mp ha, byAnswer, byLoaded,
      decode?_mapData "app.js.map" (.inl rfl)]
    exact hresolve

end Tracer

end Retrace
