import Mathlib
import Retrace.Tracer

/-!
# Two tracers in lockstep

Two tracers, each in a world of its own, are compared step by step. A `Pairing` says when a state of
the one corresponds to a state of the other, and which worlds do not come too late: a run is
compared only up to its end, and what is true of a world before the end may depend on where the run
ends.

Steps that are in `Lockstep` lead from states that correspond to such states, and give the same.
Steps may be left out of the comparison by what the first of them gives, for example when it fails
to load. Since getting a file, getting a map and tracing frames are made of reading the cache,
keeping in the cache and loading, one after the other, they are in lockstep as soon as these are
(`Pairs.frames`).
-/

namespace Retrace

namespace Tracer

variable {σ τ α β : Type}

/-! ### Steps -/

/-- One step and then another, which depends on what the first gives. -/
def andThen (f : State σ → α × State σ) (g : α → State σ → β × State σ) (s : State σ) :
    β × State σ :=
  g (f s).1 (f s).2

/-- How the states of two tracers correspond. -/
structure Pairing (σ τ : Type) where
  rel : State σ → State τ → Prop
  /-- The worlds of the first run up to its end. -/
  inTime : σ → Prop
  /-- The worlds of the second run up to its end. -/
  inTime' : τ → Prop

namespace Pairing

variable {P : Pairing σ τ} {fine : α → Prop} {fine' : β → Prop}
  {f : State σ → α × State σ} {f' : State τ → α × State τ}
  {g : α → State σ → β × State σ} {g' : α → State τ → β × State τ}

/-- Two steps give the same and leave states that correspond, if what the first gives is fine. -/
structure Lockstep (P : Pairing σ τ) (fine : α → Prop) (f : State σ → α × State σ)
    (f' : State τ → α × State τ) : Prop where
  back (s : State σ) (h : P.inTime (f s).2.world) : P.inTime s.world
  back' (s : State τ) (h : P.inTime' (f' s).2.world) : P.inTime' s.world
  same {s : State σ} {s' : State τ} (h : P.rel s s') (hend : P.inTime (f s).2.world)
    (hend' : P.inTime' (f' s').2.world) (hfine : fine (f s).1) :
    (f' s').1 = (f s).1 ∧ P.rel (f s).2 (f' s').2

/-- Steps that only give a value. -/
lemma Lockstep.give (P : Pairing σ τ) (fine : α → Prop) (a : α) :
    P.Lockstep fine (fun s => (a, s)) (fun s => (a, s)) where
  back := fun _ h => h
  back' := fun _ h => h
  same := fun h _ _ _ => ⟨rfl, h⟩

/-- Steps that give a value of their own in the place of nothing. -/
lemma Lockstep.giving {k : State σ → State σ} {k' : State τ → State τ}
    (h : P.Lockstep (fun _ => True) (fun s => ((), k s)) (fun s => ((), k' s))) (fine : α → Prop)
    (a : α) : P.Lockstep fine (fun s => (a, k s)) (fun s => (a, k' s)) where
  back := h.back
  back' := h.back'
  same := fun hrel hend hend' _ => ⟨rfl, (h.same hrel hend hend' trivial).2⟩

/-- One step after the other, where nothing fine comes after what is not. -/
lemma Lockstep.andThen (h : P.Lockstep fine f f') (hg : ∀ a, P.Lockstep fine' (g a) (g' a))
    (hfine : ∀ a s, fine' (g a s).1 → fine a) :
    P.Lockstep fine' (Tracer.andThen f g) (Tracer.andThen f' g') where
  back := fun s hend => h.back s ((hg _).back _ hend)
  back' := fun s hend => h.back' s ((hg _).back' _ hend)
  same := by
    intro s s' hrel hend hend' hfineEnd
    have hmiddle : P.inTime (f s).2.world := (hg _).back _ hend
    have hmiddle' : P.inTime' (f' s').2.world := (hg _).back' _ hend'
    obtain ⟨heq, hrelMiddle⟩ := h.same hrel hmiddle hmiddle' (hfine _ _ hfineEnd)
    simp only [Tracer.andThen, heq] at hend hend' hfineEnd ⊢
    exact (hg (f s).1).same hrelMiddle hend hend' hfineEnd

end Pairing

/-! ### What a tracer does is made of steps -/

variable (t : Tracer σ) (release : Release)

/-- The content of a generated file comes from the cache, or it is loaded and kept. -/
lemma source_eq_andThen (location : String) :
    t.source release location = andThen (t.cachedSource? location) fun found =>
      match found with
      | some data => fun s => (.ok data, s)
      | none => andThen (t.load release location) fun result =>
        match result with
        | .error e => fun s => (.error e, s)
        | .ok data => fun s => (.ok data, t.keepSource location data s) := by
  funext s
  rw [source, andThen]
  rcases t.cachedSource? location s with ⟨_ | data, s₁⟩
  · dsimp only
    rw [andThen]
    rcases t.load release location s₁ with ⟨_ | data, s₂⟩ <;> rfl
  · rfl

/-- A map in a generated file comes from the cache, or it is read and kept. -/
lemma inlineMap_eq_andThen (location : String) (data : Bytes) :
    t.inlineMap location data = andThen (t.cachedMap? (inlineKey location)) fun found =>
      match found with
      | some map => fun s => (.ok map, s)
      | none =>
        match decode? location data with
        | .error failure => fun s => (.error failure, s)
        | .ok map => fun s => (.ok map, t.keepMap (inlineKey location) map s) := by
  funext s
  rw [inlineMap, andThen]
  rcases t.cachedMap? (inlineKey location) s with ⟨_ | map, s₁⟩
  · dsimp only
    rcases decode? location data with _ | map <;> rfl
  · rfl

/-- A map at a location of its own comes from the cache, or it is loaded, read and kept. -/
lemma externalMap_eq_andThen (url : String) :
    t.externalMap release url = andThen (t.cachedMap? url) fun found =>
      match found with
      | some map => fun s => (.ok map, s)
      | none => andThen (t.load release url) fun result =>
        match result with
        | .error e => fun s => (.error (.fetch url e), s)
        | .ok data =>
          match decode? url data with
          | .error failure => fun s => (.error failure, s)
          | .ok map => fun s => (.ok map, t.keepMap url map s) := by
  funext s
  rw [externalMap, andThen]
  rcases t.cachedMap? url s with ⟨_ | map, s₁⟩
  · dsimp only
    rw [andThen]
    rcases t.load release url s₁ with ⟨_ | data, s₂⟩
    · rfl
    · dsimp only
      rcases decode? url data with _ | map <;> rfl
  · rfl

/-- A frame gets its file, then the map of the file, and then it is looked up. -/
lemma frame_eq_andThen (f : StackFrame) :
    t.frame release f = andThen (t.source release f.fileName) fun result =>
      match result with
      | .error e => fun s => (.error (.fetch f.fileName e), s)
      | .ok text =>
        match mapOf? f.fileName text with
        | .error failure => fun s => (.error failure, s)
        | .ok place => andThen (t.map release f.fileName place) fun found =>
          match found with
          | .error failure => fun s => (.error failure, s)
          | .ok (map, base) => fun s => (resolve? t.contextLines f map base, s) := by
  funext s
  rw [frame, andThen]
  rcases t.source release f.fileName s with ⟨_ | text, s₁⟩
  · rfl
  · dsimp only
    rcases mapOf? f.fileName text with _ | place
    · rfl
    · dsimp only
      rw [andThen]
      rcases t.map release f.fileName place s₁ with ⟨_ | found, s₂⟩ <;> rfl

/-- Frames are traced one after the other. -/
lemma frames_cons_eq_andThen (f : StackFrame) (rest : List StackFrame) :
    t.frames release (f :: rest) = andThen (t.frame release f) fun result =>
      andThen (t.frames release rest) fun others s => (outcome f result :: others, s) := by
  rfl

/-! ### Tracers whose steps are in lockstep -/

/-- A load that gives something. -/
def Loaded (result : Except Fetch.Error Bytes) : Prop :=
  ∃ data, result = .ok data

/-- What did not fail for want of a file or a map. -/
def NotLost (result : Except Failure α) : Prop :=
  ∀ location e, result ≠ .error (.fetch location e)

/-- What succeeds does not fail for want of anything. -/
lemma notLost_ok (a : α) : NotLost (.ok a : Except Failure α) :=
  fun _ _ heq => nomatch heq

/-- A failure is for want of a file or a map whatever else there would be. -/
lemma notLost_error_iff {failure : Failure} :
    NotLost (.error failure : Except Failure α) ↔ ∀ location e, failure ≠ .fetch location e :=
  ⟨fun h location e heq => h location e (congrArg Except.error heq),
    fun h location e heq => h location e (Except.error.inj heq)⟩

/-- A traced frame that says nothing of a file or a map that could not be fetched. -/
def SaysNotLost (traced : TracedFrame) : Prop :=
  ∀ location e, traced.error ≠ some (Failure.fetch location e).message

/-- The steps of two tracers under a release are in lockstep, loads where they give something. -/
structure Pairs (P : Pairing σ τ) (t : Tracer σ) (t' : Tracer τ) (release : Release) : Prop where
  contextLines : t'.contextLines = t.contextLines
  cachedSource? (location : String) :
    P.Lockstep (fun _ => True) (t.cachedSource? location) (t'.cachedSource? location)
  keepSource (location : String) (data : Bytes) :
    P.Lockstep (fun _ => True) (fun s => ((), t.keepSource location data s))
      (fun s => ((), t'.keepSource location data s))
  cachedMap? (key : String) :
    P.Lockstep (fun _ => True) (t.cachedMap? key) (t'.cachedMap? key)
  keepMap (key : String) (map : SourceMap) :
    P.Lockstep (fun _ => True) (fun s => ((), t.keepMap key map s))
      (fun s => ((), t'.keepMap key map s))
  load (location : String) :
    P.Lockstep Loaded (t.load release location) (t'.load release location)

namespace Pairs

variable {P : Pairing σ τ} {t : Tracer σ} {t' : Tracer τ} {release : Release}

/-- Generated files. -/
lemma source (pairs : Pairs P t t' release) (location : String) :
    P.Lockstep Loaded (t.source release location) (t'.source release location) := by
  rw [source_eq_andThen, source_eq_andThen]
  refine (pairs.cachedSource? location).andThen (fun found => ?_) fun _ _ _ => trivial
  cases found with
  | some data => exact .give P Loaded _
  | none =>
    refine (pairs.load location).andThen (fun result => ?_) fun result s hfine => ?_
    · cases result with
      | error e => exact .give P Loaded _
      | ok data => exact (pairs.keepSource location data).giving Loaded _
    · cases result with
      | error e => exact hfine
      | ok data => exact ⟨data, rfl⟩

/-- Maps in generated files. -/
lemma inlineMap (pairs : Pairs P t t' release) (location : String) (data : Bytes) :
    P.Lockstep NotLost (t.inlineMap location data) (t'.inlineMap location data) := by
  rw [inlineMap_eq_andThen, inlineMap_eq_andThen]
  refine (pairs.cachedMap? (inlineKey location)).andThen (fun found => ?_) fun _ _ _ => trivial
  cases found with
  | some map => exact .give P NotLost _
  | none =>
    cases decode? location data with
    | error failure => exact .give P NotLost _
    | ok map => exact (pairs.keepMap (inlineKey location) map).giving NotLost _

/-- Maps at locations of their own. -/
lemma externalMap (pairs : Pairs P t t' release) (url : String) :
    P.Lockstep NotLost (t.externalMap release url) (t'.externalMap release url) := by
  rw [externalMap_eq_andThen, externalMap_eq_andThen]
  refine (pairs.cachedMap? url).andThen (fun found => ?_) fun _ _ _ => trivial
  cases found with
  | some map => exact .give P NotLost _
  | none =>
    refine (pairs.load url).andThen (fun result => ?_) fun result s hfine => ?_
    · cases result with
      | error e => exact .give P NotLost _
      | ok data =>
        dsimp only
        cases decode? url data with
        | error failure => exact .give P NotLost _
        | ok map => exact (pairs.keepMap url map).giving NotLost _
    · cases result with
      | error e => exact absurd rfl (hfine url e)
      | ok data => exact ⟨data, rfl⟩

/-- A map together with its base. -/
lemma withBase {f : State σ → Except Failure SourceMap × State σ}
    {f' : State τ → Except Failure SourceMap × State τ} (h : P.Lockstep NotLost f f')
    (base : String) :
    P.Lockstep NotLost (andThen f fun found s => (found.map fun map => (map, base), s))
      (andThen f' fun found s => (found.map fun map => (map, base), s)) := by
  refine h.andThen (fun found => .give P NotLost _) fun found s hfine => ?_
  cases found with
  | error failure => exact notLost_error_iff.mpr (notLost_error_iff.mp hfine)
  | ok map => exact notLost_ok map

/-- The maps of generated files, with their bases. -/
lemma map (pairs : Pairs P t t' release) (location : String) (place : MapLocation) :
    P.Lockstep NotLost (t.map release location place) (t'.map release location place) := by
  cases place with
  | inline data => exact withBase (pairs.inlineMap location data) location
  | external url => exact withBase (pairs.externalMap url) url

/-- Frames. -/
lemma frame (pairs : Pairs P t t' release) (f : StackFrame) :
    P.Lockstep NotLost (t.frame release f) (t'.frame release f) := by
  rw [frame_eq_andThen, frame_eq_andThen]
  refine (pairs.source f.fileName).andThen (fun result => ?_) fun result s hfine => ?_
  · cases result with
    | error e => exact .give P NotLost _
    | ok text =>
      dsimp only
      cases mapOf? f.fileName text with
      | error failure => exact .give P NotLost _
      | ok place =>
        refine (pairs.map f.fileName place).andThen (fun found => ?_) fun found s hfine => ?_
        · rw [pairs.contextLines]
          cases found with
          | error failure => exact .give P NotLost _
          | ok found => exact .give P NotLost _
        · cases found with
          | error failure => exact notLost_error_iff.mpr (notLost_error_iff.mp hfine)
          | ok found => exact notLost_ok found
  · cases result with
    | error e => exact absurd rfl (hfine f.fileName e)
    | ok text => exact ⟨text, rfl⟩

/-- **Frames one after the other.** If no traced frame of the first tracer says that something could
not be fetched, then the second gives the same frames and leaves a state that corresponds. -/
theorem frames (pairs : Pairs P t t' release) (fs : List StackFrame) :
    P.Lockstep (fun traced => ∀ out ∈ traced, SaysNotLost out) (t.frames release fs)
      (t'.frames release fs) := by
  induction fs with
  | nil => exact .give P _ []
  | cons f rest ih =>
    rw [frames_cons_eq_andThen, frames_cons_eq_andThen]
    refine (pairs.frame f).andThen (fun result => ?_) fun result s hfine => ?_
    · refine ih.andThen (fun others => .give P _ _) fun others s hfine out hout => ?_
      exact hfine out (List.mem_cons_of_mem _ hout)
    · rintro location e rfl
      exact hfine _ List.mem_cons_self location e rfl

end Pairs

end Tracer

end Retrace
