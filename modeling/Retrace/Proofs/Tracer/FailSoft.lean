import Mathlib
import Retrace.Proofs.SourceMap.Lookup
import Retrace.Proofs.SourceMap.RoundTrip
import Retrace.Proofs.Tracer.Overruns
import Retrace.Proofs.Tracer.Releases

/-!
# Every frame comes out

Whatever the cache holds, and whatever the world answers, a stack trace comes out with one traced
frame for each of its frames, in their order, and each of them has one of two shapes. Either it
stands in a source, by one place of one map (`Resolved`), or it is passed on as it was given, with
an error that says at which `Stage` and at which location it failed (`PassedOn`). There is no
mixture of the two: `run_failSoft`.

The line of a place in a source is one more than the number in the map. The one number for which
this needs more than thirty-two bits is excluded by `SourceMap.AvoidsLastLine`.

Two sums are not guarded by any error of a frame: that of the number of a line and the number of
lines to show behind it, and that of the time at which something is kept and its time to live. Where
one of them is too large the whole run ends, with no frame at all (`longestLife_ends_run`), and
`run_failSoft` says when.
-/

namespace Retrace

/-! ### Places in a source -/

namespace SourceMap

/-- Whether all numbers in the mappings have thirty-two bits, as in every map that is read. -/
def Fits (m : SourceMap) : Prop :=
  ∀ s ∈ m.mappings.segments, s.Fits

/-- Whether no segment came from the last of all lines, the one whose number from one would not have
thirty-two bits. -/
def AvoidsLastLine (m : SourceMap) : Prop :=
  ∀ s ∈ m.mappings.segments, ∀ o, s.origin = some o → o.line ≠ 4294967295

/-- The numbers in a map that is read have thirty-two bits. -/
lemma fits_of_parse? {data : Bytes} {m : SourceMap} (h : parse? data = .ok m) : m.Fits :=
  Mappings.fits_of_decode? (decode?_mappingsText h)

/-- What is looked up is the origin of a segment, its line counted from one. -/
lemma exists_origin_of_lookup? {m : SourceMap} {line column : ℕ} {position : Position}
    (h : m.lookup? line column = .ok position) :
    ∃ s ∈ m.mappings.segments, ∃ o, s.origin = some o ∧ position.line = o.line + 1 := by
  rw [lookup?] at h
  split at h
  · cases h
  · split at h
    · cases h
    · next s hfind =>
      have hmem : s ∈ m.mappings.segments :=
        (List.takeWhile_sublist _).subset (List.mem_of_getLast? hfind)
      split at h
      · cases h
      · next o horigin =>
        split at h
        · cases h
        · cases h
          exact ⟨s, hmem, o, horigin, rfl⟩

/-- The line of a place that is looked up has a number of thirty-two bits, from one. -/
lemma line_of_lookup? {m : SourceMap} (hfits : m.Fits) (hlast : m.AvoidsLastLine)
    {line column : ℕ} {position : Position} (h : m.lookup? line column = .ok position) :
    1 ≤ position.line ∧ position.line < 2 ^ 32 := by
  obtain ⟨s, hs, o, horigin, hline⟩ := exists_origin_of_lookup? h
  have hlt : o.line < 2 ^ 32 := ((hfits s hs).origin o horigin).2.1
  have hne : o.line ≠ 4294967295 := hlast s hs o horigin
  omega

end SourceMap

/-- An excerpt that is not empty has a line that is not. -/
lemma Excerpt.line_ne_empty {source : String} {number window : ℕ}
    (h : (around source number window).isEmpty = false) :
    (around source number window).line ≠ "" := by
  rw [around] at h ⊢
  dsimp only at h ⊢
  split at h
  · cases h
  · next line hline =>
    have hmem : line ∈ Text.pieces source.toList := by
      split at hline
      · cases hline
      · exact List.mem_of_getElem? hline
    intro hempty
    have hchars : line = [] := by
      have := congrArg String.toList hempty
      simpa using this
    exact Text.ne_nil_of_mem_pieces hmem hchars

namespace Tracer

/-! ### The two shapes of a traced frame -/

/-- The stages at which a frame may fail. -/
inductive Stage
  | fetching
  | finding
  | locating
  | decoding
  | resolving
deriving Repr, DecidableEq

/-- The words by which an error names its stage. -/
def Stage.words : Stage → String
  | .fetching => "error fetching file: "
  | .finding => "file does not contain source map url: "
  | .locating => "error resolving source map url: "
  | .decoding => "error decoding source map: "
  | .resolving => "error resolving position: "

/-- The stage of a failure. -/
def Failure.stage : Failure → Stage
  | .fetch _ _ => .fetching
  | .noDirective _ => .finding
  | .locate _ _ => .locating
  | .decode _ _ => .decoding
  | .resolve _ _ => .resolving

/-- The location of a failure. -/
def Failure.location : Failure → String
  | .fetch location _ => location
  | .noDirective location => location
  | .locate location _ => location
  | .decode location _ => location
  | .resolve location _ => location

/-- The wording of a failure starts with the words of its stage and its location. -/
lemma Failure.exists_message_eq (failure : Failure) :
    ∃ cause, failure.message = failure.stage.words ++ failure.location ++ cause := by
  cases failure with
  | fetch location e => exact ⟨": " ++ e.message, String.append_assoc⟩
  | noDirective location => exact ⟨"", String.append_empty.symm⟩
  | locate location e => exact ⟨": " ++ e.message, String.append_assoc⟩
  | decode location e => exact ⟨": " ++ e.message, String.append_assoc⟩
  | resolve location e => exact ⟨": " ++ e.message, String.append_assoc⟩

/-- A frame that stands in a source. It has a place there, and the whole context of it or none. -/
structure Resolved (out : TracedFrame) : Prop where
  error : out.error = none
  fileName : out.fileName.isSome
  lineNumber : ∃ n, out.lineNumber = some n ∧ 1 ≤ n
  columnNumber : out.columnNumber.isSome
  functionName : out.functionName.isSome
  context : (∃ line before after, out.lineContent = some line ∧ line ≠ "" ∧
      out.linesBefore = some before ∧ out.linesAfter = some after) ∨
    out.lineContent = none ∧ out.linesBefore = none ∧ out.linesAfter = none

/-- A frame that is passed on as it was given. Its error starts with the words of a stage and a
location, which is that of the frame or, for a map that was to be fetched or decoded, that of the
map. -/
structure PassedOn (f : StackFrame) (isMapAt : String → Prop) (out : TracedFrame) : Prop where
  fileName : out.fileName = some f.fileName
  lineNumber : out.lineNumber = some f.lineNumber
  columnNumber : out.columnNumber = some f.columnNumber
  functionName : out.functionName = none
  lineContent : out.lineContent = none
  linesBefore : out.linesBefore = none
  linesAfter : out.linesAfter = none
  error : ∃ stage location cause, out.error = some (Stage.words stage ++ location ++ cause) ∧
    (location = f.fileName ∨ (stage = .fetching ∨ stage = .decoding) ∧ isMapAt location)

variable {σ : Type} {t : Tracer σ} {release : Release} {f : StackFrame} {s : State σ}

/-- A frame by a map that knows its place stands in a source. -/
lemma resolved_tracedFrame {map : SourceMap} (hfits : map.Fits) (hlast : map.AvoidsLastLine)
    {line column : ℕ} {position : SourceMap.Position} (base : String) (window : ℕ)
    (h : map.lookup? line column = .ok position) :
    Resolved (tracedFrame map base window position) where
  error := rfl
  fileName := rfl
  lineNumber := by
    obtain ⟨hpos, hlt⟩ := SourceMap.line_of_lookup? hfits hlast h
    refine ⟨_, rfl, ?_⟩
    rw [UInt32.le_iff_toNat_le, UInt32.toNat_ofNat_of_lt' hlt]
    exact hpos
  columnNumber := rfl
  functionName := rfl
  context := by
    cases hexcerpt : excerpt? map position window with
    | none =>
      right
      simp only [tracedFrame, hexcerpt, Option.map_none, and_self]
    | some e =>
      left
      refine ⟨e.line, e.before, e.after, ?_, ?_, ?_, ?_⟩
      · simp only [tracedFrame, hexcerpt, Option.map_some]
      · rw [excerpt?] at hexcerpt
        split at hexcerpt
        · cases hexcerpt
        · dsimp only at hexcerpt
          split at hexcerpt
          · cases hexcerpt
          · next content _ hempty =>
            cases hexcerpt
            exact Excerpt.line_ne_empty (Bool.eq_false_iff.mpr hempty)
      · simp only [tracedFrame, hexcerpt, Option.map_some]
      · simp only [tracedFrame, hexcerpt, Option.map_some]

/-- A frame that failed is passed on, if its failure is at a location that it may name. -/
lemma passedOn_failed {isMapAt : String → Prop} {failure : Failure}
    (hlocation : failure.location = f.fileName ∨
      (failure.stage = .fetching ∨ failure.stage = .decoding) ∧ isMapAt failure.location) :
    PassedOn f isMapAt (outcome f (.error failure)) where
  fileName := rfl
  lineNumber := rfl
  columnNumber := rfl
  functionName := rfl
  lineContent := rfl
  linesBefore := rfl
  linesAfter := rfl
  error := by
    obtain ⟨cause, hmessage⟩ := failure.exists_message_eq
    exact ⟨failure.stage, failure.location, cause, congrArg some hmessage, hlocation⟩

/-! ### Which frames have which shape -/

/-- The ledger of maps whose numbers have thirty-two bits. -/
def fitsLedger : Ledger σ where
  world _ := True
  loaded _ _ _ := True
  source _ _ _ := True
  map _ _ map := map.Fits

/-- Every tracer keeps to that ledger, since the maps that it keeps are read. -/
lemma kept_fitsLedger (t : Tracer σ) (release : Release) (files : List String) :
    fitsLedger.Kept t release 0 files where
  world_now := fun _ => trivial
  stays_now := fun _ => ⟨id, id⟩
  le_now := fun _ => Nat.zero_le _
  world_load := fun _ _ => trivial
  stays_load := fun _ _ => ⟨id, id⟩
  loaded := fun _ _ => trivial
  source := fun _ _ _ => trivial
  inlineMap := fun _ _ _ _ hmap => SourceMap.fits_of_parse? (parse?_of_decode?_eq_ok hmap)
  externalMap := fun _ _ _ _ _ hmap => SourceMap.fits_of_parse? (parse?_of_decode?_eq_ok hmap)

/-- What a frame without a map comes to is passed on. -/
lemma passedOn_of_mapCourse {s₁ s₂ : State σ} {place : MapLocation} {failure : Failure}
    (hplace : t.HasMapAt release f s place)
    (h : MapCourse t release f.fileName s₁ place (.error failure) s₂) :
    PassedOn f (fun url => t.HasMapAt release f s (.external url))
      (outcome f (.error failure)) := by
  cases h with
  | inlineBad _ hdecode =>
    obtain ⟨e, rfl⟩ := exists_of_decode?_eq_error hdecode
    exact passedOn_failed (.inl rfl)
  | externalLost => exact passedOn_failed (.inr ⟨.inl rfl, hplace⟩)
  | externalBad _ _ hdecode =>
    obtain ⟨e, rfl⟩ := exists_of_decode?_eq_error hdecode
    exact passedOn_failed (.inr ⟨.inr rfl, hplace⟩)

/-- The two ways in which a frame comes out that is traced in the state `s`: by the place that its
map gives, or as it was given. -/
inductive ComesOut (t : Tracer σ) (release : Release) (f : StackFrame) (s : State σ)
    (out : TracedFrame) : Prop
  | resolved {place : MapLocation} {map : SourceMap} {position : SourceMap.Position}
      (hmap : t.GetsMap release f s place map)
      (hlookup : map.lookup? f.lineNumber.toNat f.columnNumber.toNat = .ok position)
      (hout : out = tracedFrame map (baseOf f.fileName place) t.contextLines position)
      (hshape : Resolved out)
  | passedOn (hshape : PassedOn f (fun url => t.HasMapAt release f s (.external url)) out)

/-- What a frame gets as its map has numbers of thirty-two bits, if the maps in the cache have. -/
lemma fits_of_getsMap (hs : fitsLedger.Sound 0 s) {place : MapLocation} {map : SourceMap}
    (h : t.GetsMap release f s place map) : map.Fits := by
  obtain ⟨⟨text, hgot, hplace⟩, hmap⟩ := h
  have kept := kept_fitsLedger t release [f.fileName]
  have hfile : f.fileName ∈ [f.fileName] := List.mem_singleton.mpr rfl
  obtain ⟨hnext, -⟩ := kept.source_spec hs hfile (Prod.ext hgot rfl)
  obtain ⟨-, found, hentry, hfound⟩ :=
    kept.map_spec hnext.sound hfile trivial hplace (Prod.ext hmap rfl)
  cases found with
  | error failure => cases hfound
  | ok map' =>
    cases hfound
    exact hentry

/-- A frame that gets a map is looked up there. -/
lemma frame_of_getsMap {place : MapLocation} {map : SourceMap}
    (h : t.GetsMap release f s place map) :
    (t.frame release f s).1 = resolve? t.contextLines f map (baseOf f.fileName place) := by
  obtain ⟨⟨text, hgot, hplace⟩, hmap⟩ := h
  obtain ⟨s₁, hsource⟩ : ∃ s₁, t.source release f.fileName s = (.ok text, s₁) :=
    ⟨_, Prod.ext hgot rfl⟩
  rw [hsource] at hmap
  obtain ⟨s₂, hfound⟩ : ∃ s₂, t.map release f.fileName place s₁ =
      (.ok (map, baseOf f.fileName place), s₂) := ⟨_, Prod.ext hmap rfl⟩
  simp only [frame, hsource, hplace, hfound]

/-- A frame comes out, if the maps in the cache have numbers of thirty-two bits and the map of the
frame avoids the last line. -/
lemma frame_comesOut (hs : fitsLedger.Sound 0 s)
    (hlast : ∀ place map, t.GetsMap release f s place map → map.AvoidsLastLine) :
    ComesOut t release f s (outcome f (t.frame release f s).1) := by
  have hcourse := frameCourse t release f s
  generalize (t.frame release f s).1 = result at hcourse ⊢
  generalize (t.frame release f s).2 = s' at hcourse
  cases hcourse with
  | noFile => exact .passedOn (passedOn_failed (.inl rfl))
  | noPlace _ hplace =>
    rcases exists_of_mapOf?_eq_error hplace with rfl | ⟨e, rfl⟩
    · exact .passedOn (passedOn_failed (.inl rfl))
    · exact .passedOn (passedOn_failed (.inl rfl))
  | @noMap text place failure s₁ _ hsource hplace hmap =>
    have hat : t.HasMapAt release f s place := ⟨text, congrArg Prod.fst hsource, hplace⟩
    exact .passedOn (passedOn_of_mapCourse hat hmap)
  | @resolved text place map s₁ s₂ hsource hplace hmap =>
    have hgets : t.GetsMap release f s place map := by
      refine ⟨⟨text, congrArg Prod.fst hsource, hplace⟩, ?_⟩
      rw [hsource, hmap.map_eq]
      rfl
    have hfits : map.Fits := fits_of_getsMap hs hgets
    rw [resolve?]
    split
    · exact .passedOn (passedOn_failed (.inl rfl))
    · next position hlookup =>
      exact .resolved hgets hlookup rfl
        (resolved_tracedFrame hfits (hlast place map hgets) _ _ hlookup)

/-- The window of a frame is too large: the frame gets a map that knows its place and has the
content of the source, and the number of the first line behind the window is too large. -/
def OverrunsWindow (t : Tracer σ) (release : Release) (f : StackFrame) (s : State σ) : Prop :=
  ∃ place map position content, t.GetsMap release f s place map ∧
    map.lookup? f.lineNumber.toNat f.columnNumber.toNat = .ok position ∧
    map.contentOf position.sourceIndex = some content ∧
    Excerpt.windowOverruns content position.line t.contextLines = true

/-- What comes out tells whether the window of the frame is too large. -/
lemma windowOverruns_frame_iff (hs : fitsLedger.Sound 0 s)
    (hlast : ∀ place map, t.GetsMap release f s place map → map.AvoidsLastLine) :
    t.windowOverruns (outcome f (t.frame release f s).1) = true ↔
      t.OverrunsWindow release f s := by
  constructor
  · intro hover
    cases frame_comesOut hs hlast with
    | @resolved place map position hmap hlookup hout =>
      have hfits : map.Fits := fits_of_getsMap hs hmap
      have hline := SourceMap.line_of_lookup? hfits (hlast place map hmap) hlookup
      rw [hout, windowOverruns_tracedFrame_iff hline.2] at hover
      obtain ⟨content, hcontent, hlarge⟩ := hover
      exact ⟨place, map, position, content, hmap, hlookup, hcontent, hlarge⟩
    | passedOn hshape =>
      have hnone := windowOverruns_of_lineContent_eq_none (t := t) hshape.lineContent
      exact absurd (hnone.symm.trans hover) Bool.false_ne_true
  · rintro ⟨place, map, position, content, hmap, hlookup, hcontent, hlarge⟩
    have hfits : map.Fits := fits_of_getsMap hs hmap
    have hline := SourceMap.line_of_lookup? hfits (hlast place map hmap) hlookup
    rw [frame_of_getsMap hmap, resolve?, hlookup]
    exact (windowOverruns_tracedFrame_iff hline.2).mpr ⟨content, hcontent, hlarge⟩

/-- **Every frame comes out.** From any cache of maps that were read, and whatever the fetcher and
the store answer, a run gives one traced frame for each frame, in order: one that stands in a
source, by the place that the map of the frame gives, or the frame as it was given, with its error.

There are no frames only if a number is too large. That is the number of a line behind a window,
which never happens where the number of lines to show leaves room for a line of thirty-two bits, or
a time at which something expires, which never happens where the clock goes on for the time to live
after the end of the run. -/
theorem run_failSoft (t : Tracer σ) (release : Release) (fs : List StackFrame) (s : State σ)
    (hcache : s.cache.Holds 0 (fun _ _ => True) fun _ map => map.Fits)
    (hlast : ∀ (i : ℕ) (f : StackFrame), fs[i]? = some f → ∀ place map,
      t.GetsMap release f (t.frames release (fs.take i) s).2 place map → map.AvoidsLastLine) :
    let run := t.run release (some fs) s
    ∃ traced : List TracedFrame,
      run.1 = (if run.2.cache.overran || traced.any t.windowOverruns then .error .overflow
        else .ok traced) ∧
      traced.length = fs.length ∧
      (∀ (i : ℕ) (f : StackFrame), fs[i]? = some f → ∃ out, traced[i]? = some out ∧
        ComesOut t release f (t.frames release (fs.take i) s).2 out ∧
        (t.windowOverruns out = true ↔
          t.OverrunsWindow release f (t.frames release (fs.take i) s).2)) ∧
      (t.contextLines + 2 ^ 32 ≤ 2 ^ 64 → traced.any t.windowOverruns = false) ∧
      (∀ time ttl, t.services.Clock time → s.InReach ttl time →
        time run.2.world + ttl < ExpiringMap.clockEnd → run.2.cache.overran = false) := by
  intro run
  refine ⟨(t.frames release fs s).1, run_fst t release fs s, length_frames t release fs s, ?_,
    fun hroom => any_windowOverruns_eq_false hroom _, ?_⟩
  · intro i f hf
    have hsound : fitsLedger.Sound 0 (t.frames release (fs.take i) s).2 :=
      ((kept_fitsLedger t release (fileNames fs)).frames_spec ⟨trivial, hcache⟩ fun g hg =>
        List.mem_map_of_mem (List.mem_of_mem_take hg)).1
    refine ⟨_, ?_, frame_comesOut hsound (hlast i f hf),
      windowOverruns_frame_iff hsound (hlast i f hf)⟩
    rw [getElem?_frames, hf]
    rfl
  · intro time ttl clock hreach hlate
    have hafter := (invariant_inReach clock release).frames hreach fs
    have hend : run.2 = (t.frames release fs s).2 := run_snd t release (some fs) s
    rw [hend] at hlate ⊢
    exact hafter.overran_eq_false hlate

/-- The first release gets its map for the file, and the only segment of that is on line zero. -/
lemma avoidsLastLine_of_getsMap {place : MapLocation} {map : SourceMap}
    (h : sharing.GetsMap (versioned "1") firstPlace unused place map) : map.AvoidsLastLine := by
  obtain ⟨⟨text, hsource, hplace⟩, hmap⟩ := h
  have hread : sharing.source (versioned "1") "app.js" unused = (.ok script, fileRead 2) := rfl
  obtain rfl : script = text := Except.ok.inj ((congrArg Prod.fst hread).symm.trans hsource)
  obtain rfl := Except.ok.inj (hplace.symm.trans mapOf?_script)
  have hcourse : MapCourse sharing (versioned "1") "app.js" (fileRead 2)
      (.external "app.js.map") (.ok (mapTo "one.ts")) (mapRead "one.ts") := by
    have hdecode : decode? "app.js.map" (mapData "one.ts") = .ok (mapTo "one.ts") := by
      rw [decode?, (parse?_mapData (.inl rfl)).1]
    have hcached : sharing.cachedMap? "app.js.map" (fileRead 2) = (none, fileRead 3) := rfl
    have hload : sharing.load (versioned "1") "app.js.map" (fileRead 3) =
        (.ok (mapData "one.ts"), fileRead 3) := rfl
    exact .externalRead hcached hload hdecode
  have hfound : (.ok (mapTo "one.ts", "app.js.map") : Except Failure (SourceMap × String)) =
      .ok (map, "app.js.map") := (congrArg Prod.fst hcourse.map_eq).symm.trans hmap
  obtain rfl : mapTo "one.ts" = map := congrArg Prod.fst (Except.ok.inj hfound)
  intro seg hseg o horigin
  rw [mapTo] at hseg
  obtain rfl := List.mem_singleton.mp hseg
  cases horigin
  simp

/-- A file that is nowhere has no map. -/
lemma not_getsMap_of_missing {place : MapLocation} {map : SourceMap} :
    ¬ sharing.GetsMap (versioned "1") ⟨"lib.js", 1, 0⟩ (mapRead "one.ts") place map := by
  rintro ⟨⟨text, hsource, -⟩, -⟩
  cases hsource

/-- A file whose map stands in the store, and one that is nowhere. The clock goes on for long
enough. -/
theorem found_and_missing_failSoft :
    let fs : List StackFrame := [firstPlace, ⟨"lib.js", 1, 0⟩]
    ∃ traced, (sharing.run (versioned "1") (some fs) unused).1 = .ok traced ∧
      traced.length = fs.length ∧
      ∀ (i : ℕ) (f : StackFrame), fs[i]? = some f → ∃ out, traced[i]? = some out ∧
        ComesOut sharing (versioned "1") f
          (sharing.frames (versioned "1") (fs.take i) unused).2 out := by
  intro fs
  have hlast : ∀ (i : ℕ) (f : StackFrame), fs[i]? = some f → ∀ place map,
      sharing.GetsMap (versioned "1") f (sharing.frames (versioned "1") (fs.take i) unused).2
        place map → map.AvoidsLastLine := by
    intro i f hf place map hgets
    have hcases : i = 0 ∧ f = firstPlace ∨ i = 1 ∧ f = ⟨"lib.js", 1, 0⟩ := by
      rcases i with _ | _ | i
      · exact .inl ⟨rfl, (Option.some.inj hf).symm⟩
      · exact .inr ⟨rfl, (Option.some.inj hf).symm⟩
      · cases hf
    rcases hcases with ⟨rfl, rfl⟩ | ⟨rfl, rfl⟩
    · exact avoidsLastLine_of_getsMap hgets
    · have hstate : (sharing.frames (versioned "1") (fs.take 1) unused).2 = mapRead "one.ts" := by
        rw [show fs.take 1 = [firstPlace] from rfl]
        simp only [frames, frame_unused (.inl ⟨rfl, rfl⟩)]
      rw [hstate] at hgets
      exact absurd hgets not_getsMap_of_missing
  obtain ⟨traced, hrun, hlength, hout, hwindows, htimes⟩ :=
    run_failSoft sharing (versioned "1") fs unused (Cache.holds_make 256 3600) hlast
  have clock : sharing.services.Clock World.clock :=
    World.clock_services .memory Settings.default.maxArtifactBytes (.shared false false)
  have counts : sharing.services.Counts World.clock :=
    World.counts_services .memory Settings.default.maxArtifactBytes (.shared false false)
  have hreach : unused.InReach 3600000000000 World.clock :=
    State.inReach_of_overran_eq_false le_rfl le_rfl rfl
  have hlate : (sharing.run (versioned "1") (some fs) unused).2.world.clock + 3600000000000 <
      ExpiringMap.clockEnd := by
    rw [run_snd]
    refine lt_of_le_of_lt (Nat.add_le_add_right
      (time_frames_le counts (versioned "1") fs unused) _) ?_
    decide
  refine ⟨traced, ?_, hlength, fun i f hf => ?_⟩
  · rw [hrun, htimes World.clock _ clock hreach hlate, hwindows (by decide)]
    rfl
  · obtain ⟨out, hget, hcomes, -⟩ := hout i f hf
    exact ⟨out, hget, hcomes⟩

/-- How long something lives is nowhere checked. A frame that comes out well when that is an hour
ends the run when it is longer than the clock goes. -/
theorem longestLife_ends_run :
    (sharing.run (versioned "1") (some [firstPlace]) ⟨.make 256 3600, threeReleases⟩).1 =
        .ok [firstPlaceOf "one.ts"] ∧
      (sharing.run (versioned "1") (some [firstPlace])
        ⟨.make 256 18446744073709551615, threeReleases⟩).1 = .error .overflow := by
  have hname : firstPlace.fileName = "app.js" := rfl
  constructor
  · change (sharing.run (versioned "1") (some [firstPlace]) unused).1 = _
    rw [run_fst, run_snd]
    simp only [Tracer.trace, frames, frame_unused (.inl ⟨rfl, rfl⟩)]
    rfl
  · have hlong : (Cache.make 256 18446744073709551615).Overlong :=
      Cache.overlong_make (by decide) (by decide)
    have hsource : (sharing.source (versioned "1") "app.js"
        ⟨.make 256 18446744073709551615, threeReleases⟩).1 = .ok script := rfl
    have hover := (overran_frame_iff (t := sharing)
      (s := ⟨.make 256 18446744073709551615, threeReleases⟩) hlong (versioned "1") firstPlace).mpr
        (.inr ⟨script, hsource⟩)
    rw [run_fst, run_snd]
    simp only [Tracer.trace, frames, hover, Bool.true_or, if_true]

end Tracer

end Retrace
