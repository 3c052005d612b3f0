import Mathlib
import Retrace.Proofs.Tracer.Ledger

/-!
# Tracing without a cache

`Tracer.direct` says what becomes of a frame when every location simply holds something: it reads
the generated file, finds its map, reads the map and looks the place up, with no cache, no store and
no world in between. It is what a tracer is measured against.

A cache keeps source maps of two kinds under texts: a map with a location of its own under that
location, and a map that a generated file holds itself under `inlineKey` of that file. `Fits` says
that a cache holds nothing but what reading its keys directly gives, and `Apart` that no map
location looks like the key of a map of the other kind.

Services that read the artifacts of some generated files as `contents` says (`Reads`) keep a cache
that fits, and with it every stack trace on those files comes out as it does without a cache
(`Reads.trace_eq`).
-/

namespace Retrace

namespace Tracer

/-- What the locations of artifacts hold. -/
abbrev Contents := String → Except Fetch.Error Bytes

variable {contents : Contents} {locations : List String}

/-- Where the map of the generated file at a location is. -/
def placeOf? (contents : Contents) (location : String) : Except Failure MapLocation :=
  match contents location with
  | .error e => .error (.fetch location e)
  | .ok data => mapOf? location data

/-- The map at a place that was found in the generated file at `location`. -/
def mapAt? (contents : Contents) (location : String) : MapLocation → Except Failure SourceMap
  | .inline data => decode? location data
  | .external url =>
    match contents url with
    | .error e => .error (.fetch url e)
    | .ok data => decode? url data

/-- What becomes of a frame when locations simply hold something. -/
def direct (contents : Contents) (window : ℕ) (f : StackFrame) : Except Failure TracedFrame :=
  match placeOf? contents f.fileName with
  | .error failure => .error failure
  | .ok place =>
    match mapAt? contents f.fileName place with
    | .error failure => .error failure
    | .ok map => resolve? window f map (baseOf f.fileName place)

/-- The traced frames of a stack trace when locations simply hold something. -/
def directFrames (contents : Contents) (window : ℕ) (fs : List StackFrame) : List TracedFrame :=
  fs.map fun f => outcome f (direct contents window f)

/-- The locations of the artifacts of generated files: their own and those of their maps. -/
inductive Needed (contents : Contents) (locations : List String) : String → Prop
  | file {location : String} (h : location ∈ locations) : Needed contents locations location
  | map {location url : String} (h : location ∈ locations)
      (hplace : placeOf? contents location = .ok (.external url)) : Needed contents locations url

/-- No map of the generated files has a location that is the key of a map that one of them holds
itself. -/
def Apart (contents : Contents) (locations : List String) : Prop :=
  ∀ location ∈ locations, ∀ url, placeOf? contents location = .ok (.external url) →
    ∀ other ∈ locations, url ≠ inlineKey other

/-- The key of a map in a generated file tells the file. -/
lemma inlineKey_inj {location other : String} :
    inlineKey location = inlineKey other ↔ location = other := by
  constructor
  · intro h
    have hchars : location.toList ++ "#sourceMappingURL".toList =
        other.toList ++ "#sourceMappingURL".toList := by
      rw [← String.toList_append, ← String.toList_append]
      exact congrArg String.toList h
    exact String.toList_injective (List.append_cancel_right hchars)
  · rintro rfl
    rfl

/-- Two places with the same key, in generated files whose keys are apart, have the same map. -/
lemma mapAt?_eq_of_mapKey_eq (hapart : Apart contents locations) {location other : String}
    {place place' : MapLocation} (hlocation : location ∈ locations) (hother : other ∈ locations)
    (hplace : placeOf? contents location = .ok place)
    (hplace' : placeOf? contents other = .ok place')
    (hkey : mapKey location place = mapKey other place') :
    mapAt? contents location place = mapAt? contents other place' := by
  cases place with
  | inline data =>
    cases place' with
    | inline data' =>
      obtain rfl := inlineKey_inj.mp hkey
      rw [Except.ok.inj (hplace.symm.trans hplace')]
    | external url' => exact absurd hkey.symm (hapart other hother url' hplace' location hlocation)
  | external url =>
    cases place' with
    | inline data' => exact absurd hkey (hapart location hlocation url hplace other hother)
    | external url' =>
      obtain rfl : url = url' := hkey
      rfl

/-! ### Caches that hold what the locations hold -/

/-- The content of a generated file is what its location holds. -/
def SourceFits (contents : Contents) (locations : List String) (location : String)
    (data : Bytes) : Prop :=
  location ∈ locations → contents location = .ok data

/-- A map is the one of every place in the generated files that has its key. -/
def MapFits (contents : Contents) (locations : List String) (key : String) (map : SourceMap) :
    Prop :=
  ∀ location ∈ locations, ∀ place, placeOf? contents location = .ok place →
    mapKey location place = key → mapAt? contents location place = .ok map

/-- What a cache serves for the generated files from the time `since` on is what their locations
hold. -/
def Fits (since : ℕ) (contents : Contents) (locations : List String) (cache : Cache) : Prop :=
  cache.Holds since (SourceFits contents locations) (MapFits contents locations)

/-- A new cache serves nothing. -/
lemma fits_make {since : ℕ} (capacity ttlSecs : ℕ) :
    Fits since contents locations (.make capacity ttlSecs) :=
  Cache.holds_make capacity ttlSecs

/-- The map of one place is the map of every place with its key. -/
lemma mapFits_mapKey (hapart : Apart contents locations) {location : String} {place : MapLocation}
    {map : SourceMap} (hlocation : location ∈ locations)
    (hplace : placeOf? contents location = .ok place)
    (hmap : mapAt? contents location place = .ok map) :
    MapFits contents locations (mapKey location place) map := by
  intro other hother place' hplace' hkey
  rw [mapAt?_eq_of_mapKey_eq hapart hother hlocation hplace' hplace hkey]
  exact hmap

/-! ### Services that read what the locations hold -/

variable {σ : Type} {t : Tracer σ} {release : Release} {since : ℕ} {good : σ → Prop} {s : State σ}

/-- The ledger of what the locations hold: what is needed for the generated files is loaded as it
is, and a cache fits. -/
def directLedger (good : σ → Prop) (contents : Contents) (locations : List String) : Ledger σ where
  world := good
  loaded _ location result := Needed contents locations location → result = contents location
  source _ := SourceFits contents locations
  map _ := MapFits contents locations

/-- Under a release, in the worlds with the property `good`, the artifacts of the generated files
are read as `contents` says, and no reading of the clock is before `since`. -/
structure Reads (t : Tracer σ) (release : Release) (since : ℕ) (good : σ → Prop)
    (contents : Contents) (locations : List String) : Prop where
  now {w : σ} (h : good w) : good (t.services.now w).2
  load {w : σ} (location : String) (h : good w) : good (t.services.load release location w).2
  le_now {w : σ} (h : good w) : since ≤ (t.services.now w).1
  load_eq {w : σ} {location : String} (h : good w) (hneeded : Needed contents locations location) :
    (t.services.load release location w).1 = contents location

/-- Where a map is in what the location of a generated file holds. -/
lemma placeOf?_of_eq_ok {location : String} {data : Bytes} (h : contents location = .ok data) :
    placeOf? contents location = mapOf? location data := by
  rw [placeOf?, h]

/-- Services that read what the locations hold keep to their ledger. -/
lemma Reads.kept (reads : Reads t release since good contents locations)
    (hapart : Apart contents locations) {files : List String}
    (hfiles : ∀ location ∈ files, location ∈ locations) :
    (directLedger good contents locations).Kept t release since files where
  world_now := reads.now
  stays_now := fun _ => ⟨id, id⟩
  le_now := reads.le_now
  world_load := reads.load
  stays_load := fun _ _ => ⟨id, id⟩
  loaded := fun location h hneeded => reads.load_eq h hneeded
  source := fun _ hfile hload hmem => (hload (.file hmem)).symm
  inlineMap := by
    intro w location text data map _ hfile hsource hplace hmap
    have hmem := hfiles location hfile
    have hplace' : placeOf? contents location = .ok (.inline data) :=
      (placeOf?_of_eq_ok (hsource hmem)).trans hplace
    exact mapFits_mapKey hapart hmem hplace' hmap
  externalMap := by
    intro w location url text data map _ hfile hsource hplace hload hmap
    have hmem := hfiles location hfile
    have hplace' : placeOf? contents location = .ok (.external url) :=
      (placeOf?_of_eq_ok (hsource hmem)).trans hplace
    have hdata : contents url = .ok data := (hload (.map hmem hplace')).symm
    have hat : mapAt? contents location (.external url) = .ok map := by
      rw [mapAt?, hdata]
      exact hmap
    exact mapFits_mapKey hapart hmem hplace' hat

/-- A place without a map by the ledger is one without a map. -/
lemma mapAt?_of_noMap {w : σ} {location : String} {place : MapLocation} {failure : Failure}
    (hmem : location ∈ locations) (hplace : placeOf? contents location = .ok place)
    (h : NoMap (directLedger good contents locations) w location place failure) :
    mapAt? contents location place = .error failure := by
  cases h with
  | inline h => exact h
  | fetch hload => rw [mapAt?, ← hload (.map hmem hplace)]
  | external hload hdecode =>
    rw [mapAt?, ← hload (.map hmem hplace)]
    exact hdecode

/-- A frame that comes out as the ledger says comes out as it does without a cache. -/
lemma eq_direct_of_derived {w : σ} {window : ℕ} {f : StackFrame}
    {result : Except Failure TracedFrame} (hmem : f.fileName ∈ locations)
    (h : Derived (directLedger good contents locations) w window f result) :
    result = direct contents window f := by
  cases h with
  | @noFile e hload =>
    have hplace : placeOf? contents f.fileName = .error (.fetch f.fileName e) := by
      rw [placeOf?, ← hload (.file hmem)]
    rw [direct, hplace]
  | noPlace hdata hplace =>
    have hplace' := (placeOf?_of_eq_ok (hdata hmem)).trans hplace
    rw [direct, hplace']
  | noMap hdata hplace hmap =>
    have hplace' := (placeOf?_of_eq_ok (hdata hmem)).trans hplace
    have hat := mapAt?_of_noMap hmem hplace' hmap
    simp only [direct, hplace', hat]
  | resolved hdata hplace hmap =>
    have hplace' := (placeOf?_of_eq_ok (hdata hmem)).trans hplace
    have hat := hmap f.fileName hmem _ hplace' rfl
    simp only [direct, hplace', hat]

/-- Frames that come out as the ledger says come out as they do without a cache. -/
lemma eq_directFrames_of_derived {window : ℕ} {fs : List StackFrame} {traced : List TracedFrame}
    (hfs : ∀ f ∈ fs, f.fileName ∈ locations)
    (h : List.Forall₂ (fun f traced => ∃ w result, good w ∧
      Derived (directLedger good contents locations) w window f result ∧
      traced = outcome f result) fs traced) :
    traced = directFrames contents window fs := by
  induction h with
  | nil => rfl
  | @cons f r rest others hf _ ih =>
    obtain ⟨w, result, -, hderived, rfl⟩ := hf
    have hrest := ih fun g hg => hfs g (List.mem_cons_of_mem f hg)
    rw [eq_direct_of_derived (hfs f List.mem_cons_self) hderived, hrest]
    rfl

/-- A stack trace comes out as it does without a cache. -/
lemma Reads.trace_eq (reads : Reads t release since good contents locations)
    (hapart : Apart contents locations) {fs : List StackFrame}
    (hs : (directLedger good contents locations).Sound since s)
    (hfs : ∀ f ∈ fs, f.fileName ∈ locations) :
    (t.trace release (some fs) s).1 = .ok (directFrames contents t.contextLines fs) := by
  obtain ⟨-, hderived⟩ := (reads.kept hapart fun _ h => h).frames_spec hs hfs
  exact congrArg Except.ok (eq_directFrames_of_derived hfs hderived)

end Tracer

end Retrace
