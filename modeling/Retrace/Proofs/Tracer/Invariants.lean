import Mathlib
import Retrace.Proofs.Cache.Changes
import Retrace.Proofs.Tracer.Course

/-!
# What a run keeps

A tracer does five things: it looks for contents and for maps in its cache, keeps there what it has
loaded, and loads what the cache does not have. So a property of states that these steps keep
(`Tracer.Invariant`) is kept by frames, by stack traces and by calls. A property of caches that all
uses of a cache keep (`Cache.Invariant`) is one of them, and is kept in whole sessions, whatever the
world does in between (`invariant_afterMoments`).
-/

namespace Retrace

namespace Tracer

variable {σ : Type} {t : Tracer σ} {release : Release} {f : StackFrame} {s s' : State σ}

/-- A property of states that the steps of a tracer under a release keep. -/
structure Invariant (t : Tracer σ) (release : Release) (P : State σ → Prop) : Prop where
  cachedSource? {s : State σ} (h : P s) (location : String) : P (t.cachedSource? location s).2
  keepSource {s : State σ} (h : P s) (location : String) (data : Bytes) :
    P (t.keepSource location data s)
  cachedMap? {s : State σ} (h : P s) (key : String) : P (t.cachedMap? key s).2
  keepMap {s : State σ} (h : P s) (key : String) (map : SourceMap) : P (t.keepMap key map s)
  load {s : State σ} (h : P s) (location : String) : P (t.load release location s).2

namespace Invariant

variable {P : State σ → Prop} (inv : t.Invariant release P)

include inv

/-- Looking for the content of a generated file. -/
lemma of_cachedSource? {location : String} {found : Option Bytes}
    (hcached : t.cachedSource? location s = (found, s')) (h : P s) : P s' := by
  have hnext := inv.cachedSource? h location
  rwa [hcached] at hnext

/-- Looking for a map. -/
lemma of_cachedMap? {key : String} {found : Option SourceMap}
    (hcached : t.cachedMap? key s = (found, s')) (h : P s) : P s' := by
  have hnext := inv.cachedMap? h key
  rwa [hcached] at hnext

/-- Loading. -/
lemma of_load {location : String} {result : Except Fetch.Error Bytes}
    (hload : t.load release location s = (result, s')) (h : P s) : P s' := by
  have hnext := inv.load h location
  rwa [hload] at hnext

/-- Getting a generated file. -/
lemma source (h : P s) (location : String) : P (t.source release location s).2 := by
  have hcourse := sourceCourse t release location s
  generalize (t.source release location s).1 = result at hcourse
  generalize (t.source release location s).2 = s' at hcourse ⊢
  cases hcourse with
  | hit hcached => exact inv.of_cachedSource? hcached h
  | lost hcached hload => exact inv.of_load hload (inv.of_cachedSource? hcached h)
  | loaded hcached hload =>
    exact inv.keepSource (inv.of_load hload (inv.of_cachedSource? hcached h)) _ _

/-- Getting a map. -/
lemma of_mapCourse {location : String} {place : MapLocation} {found : Except Failure SourceMap}
    (hmap : MapCourse t release location s place found s') (h : P s) : P s' := by
  cases hmap with
  | hit hcached => exact inv.of_cachedMap? hcached h
  | inlineBad hcached => exact inv.of_cachedMap? hcached h
  | inlineRead hcached => exact inv.keepMap (inv.of_cachedMap? hcached h) _ _
  | externalLost hcached hload => exact inv.of_load hload (inv.of_cachedMap? hcached h)
  | externalBad hcached hload => exact inv.of_load hload (inv.of_cachedMap? hcached h)
  | externalRead hcached hload =>
    exact inv.keepMap (inv.of_load hload (inv.of_cachedMap? hcached h)) _ _

/-- Tracing a frame. -/
lemma frame (h : P s) (f : StackFrame) : P (t.frame release f s).2 := by
  have hsource : P (t.source release f.fileName s).2 := inv.source h f.fileName
  have hcourse := frameCourse t release f s
  generalize (t.frame release f s).1 = result at hcourse
  generalize (t.frame release f s).2 = s' at hcourse ⊢
  cases hcourse with
  | noFile hgot =>
    rw [hgot] at hsource
    exact hsource
  | noPlace hgot =>
    rw [hgot] at hsource
    exact hsource
  | noMap hgot _ hmap =>
    rw [hgot] at hsource
    exact inv.of_mapCourse hmap hsource
  | resolved hgot _ hmap =>
    rw [hgot] at hsource
    exact inv.of_mapCourse hmap hsource

/-- Tracing frames, one after the other. -/
lemma frames (h : P s) (fs : List StackFrame) : P (t.frames release fs s).2 := by
  induction fs generalizing s with
  | nil => exact h
  | cons f rest ih => exact ih (inv.frame h f)

/-- Tracing a stack trace. -/
lemma trace (h : P s) (stack : Option (List StackFrame)) : P (t.trace release stack s).2 := by
  cases stack with
  | none => exact h
  | some fs => exact inv.frames h fs

end Invariant

variable {P : Cache → Prop}

/-- A property of caches that every use keeps is kept by the steps of a tracer. -/
lemma invariant_cache (inv : Cache.Invariant P) (t : Tracer σ) (release : Release) :
    t.Invariant release fun s => P s.cache where
  cachedSource? h location := inv.source? h _ location
  keepSource h location data := inv.keepSource h _ _ location data
  cachedMap? h key := inv.map? h _ key
  keepMap h key map := inv.keepMap h _ _ key map
  load h _ := h

/-- What every use of a cache keeps, a session keeps. -/
lemma invariant_afterMoments (inv : Cache.Invariant P) (h : P s.cache)
    (session : List (Moment σ)) : P (t.afterMoments session s).cache := by
  induction session generalizing s with
  | nil => exact h
  | cons moment rest ih =>
    apply ih
    cases moment with
    | frame release f => exact (invariant_cache inv t release).frame h f
    | change change => exact h

/-- In a session with a new cache each key stands once in either map. -/
lemma once_afterMoments (capacity ttlSecs : ℕ) (w : σ) (session : List (Moment σ)) :
    (t.afterMoments session ⟨.make capacity ttlSecs, w⟩).cache.Once :=
  invariant_afterMoments Cache.invariant_once (Cache.once_make capacity ttlSecs) session

end Tracer

end Retrace
