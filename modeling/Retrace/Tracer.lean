import Retrace.Cache.Basic
import Retrace.Directive
import Retrace.Services
/-!
# Tracing

A tracer finds for each frame of a stack trace the place in a source that it came from.  It loads
the generated file, finds the directive in it, loads the source map that the directive names, looks
the place up and takes an excerpt from the source.  Files and maps that were loaded before come from
the cache.

Each frame is traced by itself: one that cannot be is passed on as it stands, with the reason.
-/

namespace Retrace

/-- What traces frames in a world of type `σ`. -/
structure Tracer (σ : Type) where
  services : Services σ
  /-- Lines of an excerpt before and after the one of the frame. -/
  contextLines : Nat

namespace Tracer

/-- What tracing changes: the cache and the world. -/
structure State (σ : Type) where
  cache : Cache
  world : σ

/-- Why a frame cannot be traced. -/
inductive Failure
  | fetch (location : String) (e : Fetch.Error)
  | noDirective (location : String)
  | locate (location : String) (e : MapLocation.Error)
  | decode (location : String) (e : SourceMap.Error)
  | resolve (location : String) (e : SourceMap.LookupError)
deriving Repr, DecidableEq

/-- The wording of a failure. -/
def Failure.message : Failure → String
  | .fetch location e => "error fetching file: " ++ location ++ ": " ++ e.message
  | .noDirective location => "file does not contain source map url: " ++ location
  | .locate location e => "error resolving source map url: " ++ location ++ ": " ++ e.message
  | .decode location e => "error decoding source map: " ++ location ++ ": " ++ e.message
  | .resolve location e => "error resolving position: " ++ location ++ ": " ++ e.message

/-! ### Steps that need nothing from the world -/

/-- Where the map of a generated file is. -/
def mapOf? (location : String) (source : Bytes) : Except Failure MapLocation :=
  match Directive.find? (Utf8.lossy source) with
  | none => .error (.noDirective location)
  | some url =>
    match MapLocation.resolve? location (String.ofList url) with
    | .ok place => .ok place
    | .error e => .error (.locate location e)

/-- The map that bytes from a location hold. -/
def decode? (location : String) (data : Bytes) : Except Failure SourceMap :=
  match SourceMap.parse? data with
  | .ok map => .ok map
  | .error e => .error (.decode location e)

/-- The excerpt around a place in a source, unless the map does not know the source or the source
does not have the line. -/
def excerpt? (map : SourceMap) (position : SourceMap.Position) (window : Nat) : Option Excerpt :=
  match map.contentOf position.sourceIndex with
  | none => none
  | some content =>
    let excerpt := Excerpt.around content position.line window
    if excerpt.isEmpty then none else some excerpt

/-- The traced frame of a place in a source of the map at `base`. -/
def tracedFrame (map : SourceMap) (base : String) (window : Nat) (position : SourceMap.Position) :
    TracedFrame :=
  let excerpt := excerpt? map position window
  { fileName := some (MapLocation.sourceName base position.source)
    lineNumber := some (UInt32.ofNat position.line)
    columnNumber := some (UInt32.ofNat position.column)
    functionName := some (position.name.getD "")
    lineContent := excerpt.map Excerpt.line
    linesBefore := excerpt.map Excerpt.before
    linesAfter := excerpt.map Excerpt.after
    error := none }

/-- The traced frame of a stack frame by the map at `base`. -/
def resolve? (window : Nat) (frame : StackFrame) (map : SourceMap) (base : String) :
    Except Failure TracedFrame :=
  match map.lookup? frame.lineNumber.toNat frame.columnNumber.toNat with
  | .error e => .error (.resolve frame.fileName e)
  | .ok position => .ok (tracedFrame map base window position)

/-- The key under which the cache keeps the map that a generated file holds itself. -/
def inlineKey (location : String) : String :=
  location ++ "#sourceMappingURL"

/-- What becomes of a frame. -/
def outcome (frame : StackFrame) : Except Failure TracedFrame → TracedFrame
  | .ok traced => traced
  | .error failure => .failed frame failure.message

/-! ### Steps in the world -/

variable {σ : Type}

/-- The times at which a map makes room for a key and takes its value.  The clock is read for each,
but only once if there is room, and not at all for a map that takes nothing. -/
def stamps {α : Type} (t : Tracer σ) (m : ExpiringMap α) (key : String) (w : σ) : Nat × Nat × σ :=
  let (first, later) := t.services.now w
  if m.capacity = 0 then (first, first, w)
  else if m.lacksRoom key then
    let (second, later) := t.services.now later
    (first, second, later)
  else (first, first, later)

/-- The content of a generated file that the cache has. -/
def cachedSource? (t : Tracer σ) (location : String) (s : State σ) : Option Bytes × State σ :=
  let (now, world) := t.services.now s.world
  let (found, cache) := s.cache.source? now location
  (found, ⟨cache, world⟩)

/-- Keeps the content of a generated file in the cache. -/
def keepSource (t : Tracer σ) (location : String) (data : Bytes) (s : State σ) : State σ :=
  let (roomAt, now, world) := t.stamps s.cache.sources location s.world
  ⟨s.cache.keepSource now location data roomAt, world⟩

/-- A source map that the cache has. -/
def cachedMap? (t : Tracer σ) (key : String) (s : State σ) : Option SourceMap × State σ :=
  let (now, world) := t.services.now s.world
  let (found, cache) := s.cache.map? now key
  (found, ⟨cache, world⟩)

/-- Keeps a source map in the cache. -/
def keepMap (t : Tracer σ) (key : String) (map : SourceMap) (s : State σ) : State σ :=
  let (roomAt, now, world) := t.stamps s.cache.maps key s.world
  ⟨s.cache.keepMap now key map roomAt, world⟩

/-- The content of an artifact that the cache does not have. -/
def load (t : Tracer σ) (release : Release) (location : String) (s : State σ) :
    Except Fetch.Error Bytes × State σ :=
  let (result, world) := t.services.load release location s.world
  (result, { s with world })

/-- The content of a generated file. -/
def source (t : Tracer σ) (release : Release) (location : String) (s : State σ) :
    Except Fetch.Error Bytes × State σ :=
  match t.cachedSource? location s with
  | (some data, s) => (.ok data, s)
  | (none, s) =>
    match t.load release location s with
    | (.error e, s) => (.error e, s)
    | (.ok data, s) => (.ok data, t.keepSource location data s)

/-- The source map that stands in the generated file at `location`. -/
def inlineMap (t : Tracer σ) (location : String) (data : Bytes) (s : State σ) :
    Except Failure SourceMap × State σ :=
  match t.cachedMap? (inlineKey location) s with
  | (some map, s) => (.ok map, s)
  | (none, s) =>
    match decode? location data with
    | .error failure => (.error failure, s)
    | .ok map => (.ok map, t.keepMap (inlineKey location) map s)

/-- The source map at a location of its own. -/
def externalMap (t : Tracer σ) (release : Release) (location : String) (s : State σ) :
    Except Failure SourceMap × State σ :=
  match t.cachedMap? location s with
  | (some map, s) => (.ok map, s)
  | (none, s) =>
    match t.load release location s with
    | (.error e, s) => (.error (.fetch location e), s)
    | (.ok data, s) =>
      match decode? location data with
      | .error failure => (.error failure, s)
      | .ok map => (.ok map, t.keepMap location map s)

/-- The source map of the generated file at `location`, and the location that the names of its
sources are relative to. -/
def map (t : Tracer σ) (release : Release) (location : String) (place : MapLocation) (s : State σ) :
    Except Failure (SourceMap × String) × State σ :=
  match place with
  | .inline data =>
    let (result, s) := t.inlineMap location data s
    (result.map fun map => (map, location), s)
  | .external url =>
    let (result, s) := t.externalMap release url s
    (result.map fun map => (map, url), s)

/-- Traces a frame. -/
def frame (t : Tracer σ) (release : Release) (f : StackFrame) (s : State σ) :
    Except Failure TracedFrame × State σ :=
  match t.source release f.fileName s with
  | (.error e, s) => (.error (.fetch f.fileName e), s)
  | (.ok data, s) =>
    match mapOf? f.fileName data with
    | .error failure => (.error failure, s)
    | .ok place =>
      match t.map release f.fileName place s with
      | (.error failure, s) => (.error failure, s)
      | (.ok (map, base), s) => (resolve? t.contextLines f map base, s)

/-- Traces frames one after the other. -/
def frames (t : Tracer σ) (release : Release) :
    List StackFrame → State σ → List TracedFrame × State σ
  | [], s => ([], s)
  | f :: rest, s =>
    let (result, s) := t.frame release f s
    let (others, s) := frames t release rest s
    (outcome f result :: others, s)

/-- Why no traced frames come out. -/
inductive Error
  | noTrace
  /-- A time or the number of a line is too large. -/
  | overflow
deriving Repr, DecidableEq

/-- The wording of an error. -/
def Error.message : Error → String
  | .noTrace => "stack trace input cannot be nil"
  | .overflow => "overflow"

/-- Traces a stack trace, as if no time and no number could be too large. -/
def trace (t : Tracer σ) (release : Release) (stack : Option (List StackFrame)) (s : State σ) :
    Except Error (List TracedFrame) × State σ :=
  match stack with
  | none => (.error .noTrace, s)
  | some fs =>
    let (traced, s) := t.frames release fs s
    (.ok traced, s)

/-- Whether the number of the first line behind the window of a traced frame is too large. -/
def windowOverruns (t : Tracer σ) (out : TracedFrame) : Bool :=
  out.lineContent.isSome && Excerpt.numberEnd ≤ (out.lineNumber.getD 0).toNat + t.contextLines

/-- Traces a stack trace, unless a time or a number is too large on the way.  The program ends
there, so a run with a cache that was given such a time before has no frames to give either. -/
def run (t : Tracer σ) (release : Release) (stack : Option (List StackFrame)) (s : State σ) :
    Except Error (List TracedFrame) × State σ :=
  match t.trace release stack s with
  | (.error e, s) => (.error e, s)
  | (.ok traced, s) =>
    if s.cache.overran || traced.any t.windowOverruns then (.error .overflow, s)
    else (.ok traced, s)

end Tracer

end Retrace
