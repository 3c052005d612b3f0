import Mathlib
import Retrace.Proofs.Tracer.Ledger

/-!
# The course of a run

What a tracer does for one frame, told once: `SourceCourse`, `MapCourse` and `FrameCourse` list the
ways in which it gets a generated file, gets the map of that file and traces the frame, each with
what it comes to and the state that it leaves. A proof about single steps goes by their cases and
opens none of the functions.

A stack trace is traced frame by frame, so its answer for a frame is the one that the frame gets in
the state that the frames before it leave (`getElem?_frames`). A session is taken apart in the same
way: it is a list of `Moment`s, each of them a frame that is traced or a change of the world, and a
call is the moments of its frames (`afterMoments_call`).
-/

namespace Retrace

namespace Tracer

variable {σ : Type} {t : Tracer σ} {release : Release} {f : StackFrame} {s s' : State σ}

/-! ### One frame -/

/-- The ways to get the generated file at a location. -/
inductive SourceCourse (t : Tracer σ) (release : Release) (location : String) (s : State σ) :
    Except Fetch.Error Bytes → State σ → Prop
  /-- The cache has it. -/
  | hit {data : Bytes} {s₁ : State σ} (hcached : t.cachedSource? location s = (some data, s₁)) :
      SourceCourse t release location s (.ok data) s₁
  /-- It cannot be loaded. -/
  | lost {e : Fetch.Error} {s₁ s₂ : State σ} (hcached : t.cachedSource? location s = (none, s₁))
      (hload : t.load release location s₁ = (.error e, s₂)) :
      SourceCourse t release location s (.error e) s₂
  /-- It is loaded and kept. -/
  | loaded {data : Bytes} {s₁ s₂ : State σ} (hcached : t.cachedSource? location s = (none, s₁))
      (hload : t.load release location s₁ = (.ok data, s₂)) :
      SourceCourse t release location s (.ok data) (t.keepSource location data s₂)

/-- The ways to get the map at a place that was found in the generated file at a location. -/
inductive MapCourse (t : Tracer σ) (release : Release) (location : String) (s : State σ) :
    MapLocation → Except Failure SourceMap → State σ → Prop
  /-- The cache has a map under the key of the place. -/
  | hit {place : MapLocation} {map : SourceMap} {s₁ : State σ}
      (hcached : t.cachedMap? (mapKey location place) s = (some map, s₁)) :
      MapCourse t release location s place (.ok map) s₁
  /-- What the file holds itself is no map. -/
  | inlineBad {data : Bytes} {failure : Failure} {s₁ : State σ}
      (hcached : t.cachedMap? (inlineKey location) s = (none, s₁))
      (hdecode : decode? location data = .error failure) :
      MapCourse t release location s (.inline data) (.error failure) s₁
  /-- The map that the file holds itself is read and kept. -/
  | inlineRead {data : Bytes} {map : SourceMap} {s₁ : State σ}
      (hcached : t.cachedMap? (inlineKey location) s = (none, s₁))
      (hdecode : decode? location data = .ok map) :
      MapCourse t release location s (.inline data) (.ok map)
        (t.keepMap (inlineKey location) map s₁)
  /-- The map cannot be loaded. -/
  | externalLost {url : String} {e : Fetch.Error} {s₁ s₂ : State σ}
      (hcached : t.cachedMap? url s = (none, s₁)) (hload : t.load release url s₁ = (.error e, s₂)) :
      MapCourse t release location s (.external url) (.error (.fetch url e)) s₂
  /-- What is loaded is no map. -/
  | externalBad {url : String} {data : Bytes} {failure : Failure} {s₁ s₂ : State σ}
      (hcached : t.cachedMap? url s = (none, s₁)) (hload : t.load release url s₁ = (.ok data, s₂))
      (hdecode : decode? url data = .error failure) :
      MapCourse t release location s (.external url) (.error failure) s₂
  /-- The map is loaded, read and kept. -/
  | externalRead {url : String} {data : Bytes} {map : SourceMap} {s₁ s₂ : State σ}
      (hcached : t.cachedMap? url s = (none, s₁)) (hload : t.load release url s₁ = (.ok data, s₂))
      (hdecode : decode? url data = .ok map) :
      MapCourse t release location s (.external url) (.ok map) (t.keepMap url map s₂)

/-- The ways to trace a frame. -/
inductive FrameCourse (t : Tracer σ) (release : Release) (f : StackFrame) (s : State σ) :
    Except Failure TracedFrame → State σ → Prop
  | noFile {e : Fetch.Error} {s₁ : State σ}
      (hsource : t.source release f.fileName s = (.error e, s₁)) :
      FrameCourse t release f s (.error (.fetch f.fileName e)) s₁
  | noPlace {text : Bytes} {failure : Failure} {s₁ : State σ}
      (hsource : t.source release f.fileName s = (.ok text, s₁))
      (hplace : mapOf? f.fileName text = .error failure) :
      FrameCourse t release f s (.error failure) s₁
  | noMap {text : Bytes} {place : MapLocation} {failure : Failure} {s₁ s₂ : State σ}
      (hsource : t.source release f.fileName s = (.ok text, s₁))
      (hplace : mapOf? f.fileName text = .ok place)
      (hmap : MapCourse t release f.fileName s₁ place (.error failure) s₂) :
      FrameCourse t release f s (.error failure) s₂
  | resolved {text : Bytes} {place : MapLocation} {map : SourceMap} {s₁ s₂ : State σ}
      (hsource : t.source release f.fileName s = (.ok text, s₁))
      (hplace : mapOf? f.fileName text = .ok place)
      (hmap : MapCourse t release f.fileName s₁ place (.ok map) s₂) :
      FrameCourse t release f s (resolve? t.contextLines f map (baseOf f.fileName place)) s₂

/-- A generated file is got in one of the ways. -/
lemma sourceCourse (t : Tracer σ) (release : Release) (location : String) (s : State σ) :
    SourceCourse t release location s (t.source release location s).1
      (t.source release location s).2 := by
  rw [source]
  split
  · next data s₁ hcached => exact .hit hcached
  · next s₁ hcached =>
    split
    · next e s₂ hload => exact .lost hcached hload
    · next data s₂ hload => exact .loaded hcached hload

/-- The map of a generated file is got in one of the ways, and its base is that of its place. -/
lemma mapCourse (t : Tracer σ) (release : Release) (location : String) (place : MapLocation)
    (s : State σ) :
    ∃ found, MapCourse t release location s place found (t.map release location place s).2 ∧
      (t.map release location place s).1 = found.map fun map => (map, baseOf location place) := by
  cases place with
  | inline data =>
    refine ⟨(t.inlineMap location data s).1, ?_, rfl⟩
    change MapCourse t release location s (.inline data) _ (t.inlineMap location data s).2
    rw [inlineMap]
    split
    · next map s₁ hcached => exact .hit hcached
    · next s₁ hcached =>
      split
      · next failure hdecode => exact .inlineBad hcached hdecode
      · next map hdecode => exact .inlineRead hcached hdecode
  | external url =>
    refine ⟨(t.externalMap release url s).1, ?_, rfl⟩
    change MapCourse t release location s (.external url) _ (t.externalMap release url s).2
    rw [externalMap]
    split
    · next map s₁ hcached => exact .hit hcached
    · next s₁ hcached =>
      split
      · next e s₂ hload => exact .externalLost hcached hload
      · next data s₂ hload =>
        split
        · next failure hdecode => exact .externalBad hcached hload hdecode
        · next map hdecode => exact .externalRead hcached hload hdecode

/-- A frame is traced in one of the ways. -/
lemma frameCourse (t : Tracer σ) (release : Release) (f : StackFrame) (s : State σ) :
    FrameCourse t release f s (t.frame release f s).1 (t.frame release f s).2 := by
  rw [frame]
  split
  · next e s₁ hsource => exact .noFile hsource
  · next text s₁ hsource =>
    split
    · next failure hplace => exact .noPlace hsource hplace
    · next place hplace =>
      obtain ⟨found, hcourse, hfound⟩ := mapCourse t release f.fileName place s₁
      rcases hmap : t.map release f.fileName place s₁ with ⟨result, s₂⟩
      rw [hmap] at hcourse hfound
      cases found with
      | error failure =>
        obtain rfl : result = .error failure := hfound
        exact .noMap hsource hplace hcourse
      | ok map =>
        obtain rfl : result = .ok (map, baseOf f.fileName place) := hfound
        exact .resolved hsource hplace hcourse

/-- A way to get a map tells what getting it comes to. -/
lemma MapCourse.map_eq {location : String} {place : MapLocation}
    {found : Except Failure SourceMap}
    (h : MapCourse t release location s place found s') :
    t.map release location place s =
      (found.map fun map => (map, baseOf location place), s') := by
  cases h with
  | @hit place map s₁ hcached =>
    cases place with
    | inline data =>
      have hinline : t.inlineMap location data s = (.ok map, s') := by
        rw [inlineMap, show t.cachedMap? (inlineKey location) s = _ from hcached]
      rw [Tracer.map, hinline]
      rfl
    | external url =>
      have hexternal : t.externalMap release url s = (.ok map, s') := by
        rw [externalMap, show t.cachedMap? url s = _ from hcached]
      rw [Tracer.map, hexternal]
      rfl
  | inlineBad hcached hdecode => simp only [Tracer.map, inlineMap, hcached, hdecode]; rfl
  | inlineRead hcached hdecode => simp only [Tracer.map, inlineMap, hcached, hdecode]; rfl
  | externalLost hcached hload => simp only [Tracer.map, externalMap, hcached, hload]; rfl
  | externalBad hcached hload hdecode =>
    simp only [Tracer.map, externalMap, hcached, hload, hdecode]
    rfl
  | externalRead hcached hload hdecode =>
    simp only [Tracer.map, externalMap, hcached, hload, hdecode]
    rfl

/-- A way to trace a frame tells what tracing it comes to. -/
lemma FrameCourse.frame_eq {result : Except Failure TracedFrame}
    (h : FrameCourse t release f s result s') : t.frame release f s = (result, s') := by
  cases h with
  | noFile hsource => simp only [Tracer.frame, hsource]
  | noPlace hsource hplace => simp only [Tracer.frame, hsource, hplace]
  | noMap hsource hplace hmap =>
    simp only [Tracer.frame, hsource, hplace, hmap.map_eq]
    rfl
  | resolved hsource hplace hmap =>
    simp only [Tracer.frame, hsource, hplace, hmap.map_eq]
    rfl

/-- The generated file of a frame, as the tracer gets it, has its map at a place. -/
def HasMapAt (t : Tracer σ) (release : Release) (f : StackFrame) (s : State σ)
    (place : MapLocation) : Prop :=
  ∃ text, (t.source release f.fileName s).1 = .ok text ∧ mapOf? f.fileName text = .ok place

/-- The tracer gets a map for a frame, from a place. -/
def GetsMap (t : Tracer σ) (release : Release) (f : StackFrame) (s : State σ)
    (place : MapLocation) (map : SourceMap) : Prop :=
  t.HasMapAt release f s place ∧
    (t.map release f.fileName place (t.source release f.fileName s).2).1 =
      .ok (map, baseOf f.fileName place)

/-- A map that is read stands in the bytes. -/
lemma parse?_of_decode?_eq_ok {location : String} {data : Bytes} {map : SourceMap}
    (h : decode? location data = .ok map) : SourceMap.parse? data = .ok map := by
  rw [decode?] at h
  split at h
  · next hparse =>
    cases h
    exact hparse
  · cases h

/-- What reading a map fails with names its location. -/
lemma exists_of_decode?_eq_error {location : String} {data : Bytes} {failure : Failure}
    (h : decode? location data = .error failure) : ∃ e, failure = .decode location e := by
  rw [decode?] at h
  split at h
  · cases h
  · next e _ =>
    cases h
    exact ⟨e, rfl⟩

/-- What looking for the place of a map fails with names the generated file. -/
lemma exists_of_mapOf?_eq_error {location : String} {text : Bytes} {failure : Failure}
    (h : mapOf? location text = .error failure) :
    failure = .noDirective location ∨ ∃ e, failure = .locate location e := by
  rw [mapOf?] at h
  split at h
  · cases h
    exact .inl rfl
  · split at h
    · cases h
    · next e _ =>
      cases h
      exact .inr ⟨e, rfl⟩

/-! ### Frames one after the other -/

/-- A stack trace gives each frame what it comes to in the state that the frames before it leave. -/
lemma getElem?_frames (t : Tracer σ) (release : Release) (fs : List StackFrame) (s : State σ)
    (i : ℕ) :
    (t.frames release fs s).1[i]? = fs[i]?.map fun f =>
      outcome f (t.frame release f (t.frames release (fs.take i) s).2).1 := by
  induction fs generalizing s i with
  | nil => rfl
  | cons f rest ih =>
    cases i with
    | zero => rfl
    | succ i => exact ih (t.frame release f s).2 i

/-- A stack trace gives one traced frame for each frame. -/
lemma length_frames (t : Tracer σ) (release : Release) (fs : List StackFrame) (s : State σ) :
    (t.frames release fs s).1.length = fs.length := by
  induction fs generalizing s with
  | nil => rfl
  | cons f rest ih => exact congrArg Nat.succ (ih (t.frame release f s).2)

/-- One frame. -/
lemma frames_singleton (t : Tracer σ) (release : Release) (f : StackFrame) (s : State σ) :
    t.frames release [f] s =
      ([outcome f (t.frame release f s).1], (t.frame release f s).2) := rfl

/-- A stack trace of one frame. -/
lemma trace_singleton (t : Tracer σ) (release : Release) (f : StackFrame) (s : State σ) :
    t.trace release (some [f]) s =
      (.ok [outcome f (t.frame release f s).1], (t.frame release f s).2) := rfl

/-! ### Sessions -/

/-- What may happen in a session: a frame is traced, or the world changes. -/
inductive Moment (σ : Type)
  | frame (release : Release) (f : StackFrame)
  | change (change : σ → σ)

/-- What a moment leaves. -/
def afterMoment (t : Tracer σ) (s : State σ) : Moment σ → State σ
  | .frame release f => (t.frame release f s).2
  | .change change => { s with world := change s.world }

/-- What the moments of a session leave, one after the other. -/
def afterMoments (t : Tracer σ) (moments : List (Moment σ)) (s : State σ) : State σ :=
  moments.foldl t.afterMoment s

/-- The moments of the frames of a call. -/
def callMoments (release : Release) (fs : List StackFrame) : List (Moment σ) :=
  fs.map (.frame release)

lemma afterMoments_append (moments moments' : List (Moment σ)) (s : State σ) :
    t.afterMoments (moments ++ moments') s =
      t.afterMoments moments' (t.afterMoments moments s) :=
  List.foldl_append

/-- A call leaves what the moments of its frames leave. -/
lemma afterMoments_call (fs : List StackFrame) (s : State σ) :
    t.afterMoments (callMoments release fs) s = (t.trace release (some fs) s).2 := by
  change t.afterMoments (callMoments release fs) s = (t.frames release fs s).2
  induction fs generalizing s with
  | nil => rfl
  | cons f rest ih => exact ih (t.frame release f s).2

end Tracer

end Retrace
