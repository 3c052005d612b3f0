import Mathlib
import Retrace.Proofs.Store.Working
import Retrace.Proofs.Tracer.Direct

/-!
# Releases behind one cache

A store keeps artifacts by project, version and location, but the cache in front of it knows
locations only. So what a trace of one release gives may depend on earlier calls under other
releases, and this file says how far.

It never does through the store: what a store holds it goes on holding (`Services.Later`), since
only what it does not have is fetched and put in. Through the cache it does only by what the calls
left there, still alive, under the location of a frame of the trace or under the key of its map.
Where that is what the store holds under the release of the trace, the calls make no difference
(`trace_afterCalls_eq_of_held`), and elsewhere they may (`first_served_for_second`).

Whatever calls leave in a cache is in the store under one of their releases (`sound_callLedger`). So
they make no difference either where these releases and the trace `Agree` about the locations that
they share.
-/

namespace Retrace

variable {σ : Type}

namespace Tracer

/-! ### Traces whose artifacts are held -/

variable {t : Tracer σ} {store : StoreAccess σ} {objects : σ → String → Option Bytes}
  {time : σ → ℕ} {w w₁ : σ} {release : Release} {locations : List String}

/-- What the store holds under a release. -/
def heldUnder (objects : σ → String → Option Bytes) (w : σ) (release : Release) : Contents :=
  fun location =>
    match objects w (release.key location).text with
    | some data => .ok data
    | none => .error (.notFound .unknown)

/-- The store holds under a release all that is needed for some generated files. -/
def HeldAll (objects : σ → String → Option Bytes) (w : σ) (release : Release)
    (locations : List String) : Prop :=
  ∀ location, Needed (heldUnder objects w release) locations location →
    (objects w (release.key location).text).isSome

/-- What the store of a world holds is read under its release in every later world. -/
lemma reads_of_held (working : t.services.Working store objects time)
    (hheld : HeldAll objects w release locations) (hlater : Services.Later objects time w w₁) :
    Reads t release (time w₁) (Services.Later objects time w₁) (heldUnder objects w release)
      locations where
  now := fun h => h.trans (working.later_now _)
  load := fun location h => h.trans (working.later_load release location _)
  le_now := fun h => h.time_le.trans (working.time_le_now _)
  load_eq := by
    intro w₂ location h hneeded
    obtain ⟨data, hdata⟩ := Option.isSome_iff_exists.mp (hheld location hneeded)
    rw [working.load_of_held (h.holds (hlater.holds hdata)), heldUnder, hdata]

/-- A trace whose artifacts are held comes out, in every later world and with every cache that fits,
as the store says. -/
lemma trace_eq_of_held (working : t.services.Working store objects time) (fs : List StackFrame)
    (hheld : HeldAll objects w release (fileNames fs))
    (hapart : Apart (heldUnder objects w release) (fileNames fs))
    (hlater : Services.Later objects time w w₁) {cache : Cache}
    (hfits : Fits (time w₁) (heldUnder objects w release) (fileNames fs) cache) :
    (t.trace release (some fs) ⟨cache, w₁⟩).1 =
      .ok (directFrames (heldUnder objects w release) t.contextLines fs) :=
  (reads_of_held working hheld hlater).trace_eq hapart ⟨.refl w₁, hfits⟩
    fun _ hf => List.mem_map_of_mem hf

/-! ### What calls leave in a cache -/

/-- The store of a world holds an artifact at a location under the release of one of some calls. -/
def HeldByCall (objects : σ → String → Option Bytes) (calls : List Call) (w : σ) (location : String)
    (data : Bytes) : Prop :=
  ∃ call ∈ calls, objects w (call.release.key location).text = some data

/-- The maps that calls may leave in a cache: those that can be read from what the store holds under
their releases, at the key itself or in one of their generated files. -/
inductive MapOfCall (objects : σ → String → Option Bytes) (calls : List Call) (w : σ) :
    String → SourceMap → Prop
  | external {url : String} {data : Bytes} {map : SourceMap}
      (hdata : HeldByCall objects calls w url data) (hmap : decode? url data = .ok map) :
      MapOfCall objects calls w url map
  | inline {call : Call} {location : String} {text data : Bytes} {map : SourceMap}
      (hcall : call ∈ calls) (hfile : location ∈ call.fileNames)
      (htext : HeldByCall objects calls w location text)
      (hplace : mapOf? location text = .ok (.inline data))
      (hmap : decode? location data = .ok map) :
      MapOfCall objects calls w (inlineKey location) map

/-- The ledger of some calls on a store: what they load is in the store, under their releases. -/
def callLedger (objects : σ → String → Option Bytes) (time : σ → ℕ) (calls : List Call) (w : σ) :
    Ledger σ where
  world := Services.Later objects time w
  loaded w' location result := ∀ data, result = .ok data → HeldByCall objects calls w' location data
  source := HeldByCall objects calls
  map := MapOfCall objects calls

/-- What is held goes on being held. -/
lemma HeldByCall.later {calls : List Call} {location : String} {data : Bytes}
    (h : HeldByCall objects calls w location data) (hlater : Services.Later objects time w w₁) :
    HeldByCall objects calls w₁ location data := by
  obtain ⟨call, hcall, hdata⟩ := h
  exact ⟨call, hcall, hlater.holds hdata⟩

/-- A later world says of a cache what the ledger said before. -/
lemma stays_of_later {calls : List Call} {w₂ : σ} (hlater : Services.Later objects time w₁ w₂) :
    (callLedger objects time calls w).Stays w₁ w₂ where
  source := fun h => h.later hlater
  map := by
    intro key map h
    cases h with
    | external hdata hmap => exact .external (hdata.later hlater) hmap
    | inline hcall hfile htext hplace hmap =>
      exact .inline hcall hfile (htext.later hlater) hplace hmap

/-- Calls keep to their ledger. -/
lemma kept_callLedger (working : t.services.Working store objects time) (w : σ)
    {calls : List Call} {call : Call} (hcall : call ∈ calls) :
    (callLedger objects time calls w).Kept t call.release 0 call.fileNames where
  world_now := fun h => h.trans (working.later_now _)
  stays_now := fun _ => stays_of_later (working.later_now _)
  le_now := fun _ => Nat.zero_le _
  world_load := fun location h => h.trans (working.later_load call.release location _)
  stays_load := fun location _ => stays_of_later (working.later_load call.release location _)
  loaded := fun _ _ _ hload => ⟨call, hcall, working.objects_load hload⟩
  source := fun _ _ hload => hload _ rfl
  inlineMap := fun _ hfile hsource hplace hmap => .inline hcall hfile hsource hplace hmap
  externalMap := fun _ _ _ _ hload hmap => .external (hload _ rfl) hmap

/-- Whatever calls leave in a new cache is in the store under one of their releases. -/
lemma sound_callLedger (working : t.services.Working store objects time) (capacity ttlSecs : ℕ)
    (calls : List Call) (w : σ) :
    (callLedger objects time calls w).Sound 0 (t.afterCalls calls ⟨.make capacity ttlSecs, w⟩) :=
  Ledger.sound_afterCalls (fun _ hcall => kept_callLedger working w hcall)
    ⟨.refl w, Cache.holds_make capacity ttlSecs⟩

/-- The calls and some generated files meet in no location where they differ: what the store holds
under the releases of the calls at the locations of artifacts of the files is what `contents` says,
and no map of either has a location that is the key of a map that a file of the other holds
itself. -/
structure Agree (objects : σ → String → Option Bytes) (calls : List Call) (w : σ)
    (contents : Contents) (locations : List String) : Prop where
  same {location : String} {data : Bytes} (hneeded : Needed contents locations location)
    (hdata : HeldByCall objects calls w location data) : contents location = .ok data
  url_ne {location url : String} (hmem : location ∈ locations)
    (hplace : placeOf? contents location = .ok (.external url)) {call : Call} (hcall : call ∈ calls)
    {other : String} (hother : other ∈ call.fileNames) : url ≠ inlineKey other
  not_held {location : String} {data : Bytes} (hmem : location ∈ locations) :
    ¬ HeldByCall objects calls w (inlineKey location) data

/-- A map that calls leave under the key of a place in a generated file is the one at that place. -/
lemma Agree.mapFits {contents : Contents} {calls : List Call} {key : String} {map : SourceMap}
    (agree : Agree objects calls w contents locations) (h : MapOfCall objects calls w key map) :
    MapFits contents locations key map := by
  intro location hmem place hplace hkey
  cases h with
  | external hdata hmap =>
    cases place with
    | inline text =>
      subst hkey
      exact absurd hdata (agree.not_held hmem)
    | external url =>
      obtain rfl : url = key := hkey
      rw [mapAt?, agree.same (.map hmem hplace) hdata]
      exact hmap
  | @inline call other text data _ hcall hfile htext hplace' hmap =>
    cases place with
    | inline data' =>
      obtain rfl := inlineKey_inj.mp hkey
      have hsame : placeOf? contents location = .ok (.inline data) :=
        (placeOf?_of_eq_ok (agree.same (.file hmem) htext)).trans hplace'
      rw [Except.ok.inj (hplace.symm.trans hsame)]
      exact hmap
    | external url => exact absurd hkey (agree.url_ne hmem hplace hcall hfile)

/-- A cache of calls that agree with some generated files fits these. -/
lemma Agree.fits {contents : Contents} {calls : List Call} {since : ℕ} {w₀ : σ} {s : State σ}
    (agree : Agree objects calls s.world contents locations)
    (hs : (callLedger objects time calls w₀).Sound 0 s) :
    Fits since contents locations s.cache where
  sources := (hs.cache.sources.imp fun _ _ hdata hmem =>
    agree.same (.file hmem) hdata).later (Nat.zero_le since)
  maps := (hs.cache.maps.imp fun _ _ hmap => agree.mapFits hmap).later (Nat.zero_le since)

/-! ### Traces after calls under other releases -/

/-- **Releases meet in the cache only.** A trace whose artifacts the store holds under its release
comes out after any calls, under whatever releases, as it does without them: with a new cache
always, with the cache of the calls when all that it still serves for the trace is what the store
holds under the release, and with the cache of the calls when they agree with the trace. -/
theorem trace_afterCalls_eq_of_held (working : t.services.Working store objects time)
    (capacity ttlSecs : ℕ) (calls : List Call) (fs : List StackFrame)
    (hheld : HeldAll objects w release (fileNames fs))
    (hapart : Apart (heldUnder objects w release) (fileNames fs)) :
    let contents := heldUnder objects w release
    let start : State σ := ⟨.make capacity ttlSecs, w⟩
    let after := t.afterCalls calls start
    (t.trace release (some fs) ⟨.make capacity ttlSecs, after.world⟩).1 =
        (t.trace release (some fs) start).1 ∧
      (Fits (time after.world) contents (fileNames fs) after.cache →
        (t.trace release (some fs) after).1 = (t.trace release (some fs) start).1) ∧
      (Agree objects calls after.world contents (fileNames fs) →
        (t.trace release (some fs) after).1 = (t.trace release (some fs) start).1) := by
  intro contents start after
  have hsound := sound_callLedger working capacity ttlSecs calls w
  have hlater : Services.Later objects time w after.world := hsound.world
  have hstart : (t.trace release (some fs) start).1 =
      .ok (directFrames contents t.contextLines fs) :=
    trace_eq_of_held working fs hheld hapart (.refl w) (fits_make capacity ttlSecs)
  rw [hstart]
  refine ⟨?_, fun hfits => ?_, fun agree => ?_⟩
  · exact trace_eq_of_held working fs hheld hapart hlater (fits_make capacity ttlSecs)
  · exact trace_eq_of_held working fs hheld hapart hlater hfits
  · exact trace_eq_of_held working fs hheld hapart hlater (agree.fits hsound)

/-! ### Three releases of a file -/

/-- A generated file whose map stands beside it. -/
def script : Bytes := Utf8.ofString "//# sourceMappingURL=app.js.map"

/-- The text of a map whose first place comes from the first place of a source. -/
def mapData (source : String) : Bytes :=
  Utf8.ofString ("\x7b\"version\":3,\"sources\":[\"" ++ source ++ "\"],\"mappings\":\"AAAA\"\x7d")

/-- The map of that text. -/
def mapTo (source : String) : SourceMap :=
  ⟨3, none, none, [source], [], [], ⟨[⟨0, 0, some ⟨0, 0, 0⟩, none⟩]⟩⟩

/-- A store with three releases of the same file. The last two have the same map. -/
def threeReleases : World :=
  { World.make ⟨fun _ => .error .missing⟩ .down with
    store := ⟨[("1/1/disk/rel/app.js", script), ("1/1/disk/rel/app.js.map", mapData "one.ts"),
      ("1/2/disk/rel/app.js", script), ("1/2/disk/rel/app.js.map", mapData "two.ts"),
      ("1/3/disk/rel/app.js", script), ("1/3/disk/rel/app.js.map", mapData "two.ts")]⟩ }

/-- A release of the first project. -/
def versioned (v : String) : Release := ⟨⟨1⟩, some v⟩

/-- The first place of the file. -/
def firstPlace : StackFrame := ⟨"app.js", 1, 0⟩

/-- The traced frame of the first place of a source. -/
def firstPlaceOf (source : String) : TracedFrame :=
  ⟨some source, some 1, some 0, some "", none, none, none, none⟩

/-- A tracer with a store. -/
def sharing : Tracer World :=
  World.tracer Settings.default .memory (.shared false false)

/-- That tracer before any call. -/
def unused : State World :=
  ⟨.make 256 3600, threeReleases⟩

/-- Where the map of the file is. -/
lemma mapOf?_script : mapOf? "app.js" script = .ok (.external "app.js.map") := by
  have hfind : Directive.find? (Utf8.lossy script) = some "app.js.map".toList := by cbv
  have hresolve : MapLocation.resolve? "app.js" "app.js.map" = .ok (.external "app.js.map") :=
    (MapLocation.resolve?_beside (by cbv) (by cbv) (by cbv)).trans (by cbv)
  simp only [mapOf?, hfind, String.ofList_toList, hresolve]

/-- The last two releases hold the file and the same map. -/
lemma objects_of_last {v : String} (hv : v = "2" ∨ v = "3") :
    World.storeObjects threeReleases ((versioned v).key "app.js").text = some script ∧
      World.storeObjects threeReleases ((versioned v).key "app.js.map").text =
        some (mapData "two.ts") := by
  rcases hv with rfl | rfl <;> exact ⟨by cbv, by cbv⟩

/-- All that the file needs. -/
lemma eq_of_needed {location : String}
    (h : Needed (heldUnder World.storeObjects threeReleases (versioned "2")) ["app.js"] location) :
    location = "app.js" ∨ location = "app.js.map" := by
  cases h with
  | file hmem => exact .inl (List.mem_singleton.mp hmem)
  | map hmem hplace =>
    rw [List.mem_singleton.mp hmem, placeOf?, heldUnder, (objects_of_last (.inl rfl)).1] at hplace
    dsimp only at hplace
    rw [mapOf?_script] at hplace
    exact .inr (MapLocation.external.inj (Except.ok.inj hplace)).symm

/-- The second release holds all that the file needs. -/
lemma heldAll_two : HeldAll World.storeObjects threeReleases (versioned "2") ["app.js"] := by
  intro location hneeded
  rcases eq_of_needed hneeded with rfl | rfl
  · rw [(objects_of_last (.inl rfl)).1]
    rfl
  · rw [(objects_of_last (.inl rfl)).2]
    rfl

/-- In the second release no keys clash. -/
lemma apart_two :
    Apart (heldUnder World.storeObjects threeReleases (versioned "2")) ["app.js"] := by
  intro location hlocation url hplace other hother
  rw [List.mem_singleton.mp hother]
  rcases eq_of_needed (.map hlocation hplace) with rfl | rfl
  · decide
  · decide

/-- The texts of the maps of the releases can be read, and their sources are no URLs. -/
lemma parse?_mapData {source : String} (hsource : source = "one.ts" ∨ source = "two.ts") :
    SourceMap.parse? (mapData source) = .ok (mapTo source) ∧ isUrl source = false := by
  rcases hsource with rfl | rfl <;> exact ⟨by cbv, by cbv⟩

/-- What a map to a source that is no URL gives for the first place of a file. -/
lemma resolve?_mapTo {source base : String} (file : String) (hsource : isUrl source = false)
    (hbase : locationUrl? base = none) :
    resolve? sharing.contextLines ⟨file, 1, 0⟩ (mapTo source) base = .ok (firstPlaceOf source) := by
  have hname : MapLocation.sourceName base source = source := by
    simp only [MapLocation.sourceName, hsource, hbase, Option.filter_none, Bool.false_eq_true,
      if_false]
  have hlookup : (mapTo source).lookup? (⟨file, 1, 0⟩ : StackFrame).lineNumber.toNat
      (⟨file, 1, 0⟩ : StackFrame).columnNumber.toNat = .ok ⟨source, 0, 1, 0, none⟩ := rfl
  have hcontent : (mapTo source).contentOf 0 = none := rfl
  rw [resolve?, hlookup]
  simp only [tracedFrame, hname, excerpt?, hcontent]
  rfl

/-- The second release without any calls before. -/
lemma direct_two :
    direct (heldUnder World.storeObjects threeReleases (versioned "2")) sharing.contextLines
      firstPlace = .ok (firstPlaceOf "two.ts") := by
  obtain ⟨hfile, hmap⟩ := objects_of_last (.inl rfl)
  obtain ⟨hparse, hurl⟩ := parse?_mapData (.inr rfl)
  have hname : firstPlace.fileName = "app.js" := rfl
  have hplace : placeOf? (heldUnder World.storeObjects threeReleases (versioned "2")) "app.js" =
      .ok (.external "app.js.map") := by
    rw [placeOf?, heldUnder, hfile]
    exact mapOf?_script
  have hat : mapAt? (heldUnder World.storeObjects threeReleases (versioned "2")) "app.js"
      (.external "app.js.map") = .ok (mapTo "two.ts") := by
    rw [mapAt?, heldUnder, hmap]
    dsimp only
    rw [decode?, hparse]
  simp only [direct, hname, hplace, hat]
  exact resolve?_mapTo "app.js" hurl (by cbv)

/-- What the tracer has changed after it has got the file. -/
def fileRead (clock : ℕ) : State World :=
  ⟨⟨⟨256, 3600000000000, [("app.js", ⟨script, 1, 3600000000001⟩)], false⟩,
    .empty 256 3600000000000⟩,
    { threeReleases with clock }⟩

/-- What the tracer has changed after a call that got the map to a source. -/
def mapRead (source : String) : State World :=
  ⟨⟨⟨256, 3600000000000, [("app.js", ⟨script, 1, 3600000000001⟩)], false⟩,
    ⟨256, 3600000000000, [("app.js.map", ⟨mapTo source, 3, 3600000000003⟩)], false⟩⟩,
    { threeReleases with clock := 4 }⟩

/-- A call under the first release gets the map to the first source, and one under the third the map
to the second. -/
lemma frame_unused {v source : String}
    (hv : v = "1" ∧ source = "one.ts" ∨ v = "3" ∧ source = "two.ts") :
    sharing.frame (versioned v) firstPlace unused =
      (.ok (firstPlaceOf source), mapRead source) := by
  have hname : firstPlace.fileName = "app.js" := rfl
  obtain ⟨hsource, hload⟩ :
      sharing.source (versioned v) "app.js" unused = (.ok script, fileRead 2) ∧
        sharing.load (versioned v) "app.js.map" (fileRead 3) =
          (.ok (mapData source), fileRead 3) := by
    rcases hv with ⟨rfl, rfl⟩ | ⟨rfl, rfl⟩ <;> exact ⟨rfl, rfl⟩
  obtain ⟨hparse, hurl⟩ := parse?_mapData (hv.imp And.right And.right)
  have hcached : sharing.cachedMap? "app.js.map" (fileRead 2) = (none, fileRead 3) := rfl
  have hkeep : sharing.keepMap "app.js.map" (mapTo source) (fileRead 3) = mapRead source := rfl
  have hmap : sharing.externalMap (versioned v) "app.js.map" (fileRead 2) =
      (.ok (mapTo source), mapRead source) := by
    simp only [externalMap, hcached, hload, decode?, hparse, hkeep]
  simp only [Tracer.frame, hname, hsource, mapOf?_script, Tracer.map, hmap, Except.map]
  exact congrArg (fun result => (result, mapRead source))
    (resolve?_mapTo "app.js" hurl (by cbv))

/-- What the tracer has changed after such a call. -/
lemma afterCalls_unused {v source : String}
    (hv : v = "1" ∧ source = "one.ts" ∨ v = "3" ∧ source = "two.ts") :
    sharing.afterCalls [⟨versioned v, some [firstPlace]⟩] unused = mapRead source := by
  simp only [afterCalls, Tracer.trace, frames, frame_unused hv]

/-- The third release agrees with the second. -/
lemma agree_third :
    Agree World.storeObjects [⟨versioned "3", some [firstPlace]⟩] (mapRead "two.ts").world
      (heldUnder World.storeObjects threeReleases (versioned "2")) ["app.js"] where
  same := by
    rintro location data hneeded ⟨call, hcall, hdata⟩
    rw [List.mem_singleton.mp hcall] at hdata
    have hdata' : World.storeObjects threeReleases ((versioned "3").key location).text =
        some data := hdata
    rcases eq_of_needed hneeded with rfl | rfl
    · rw [(objects_of_last (.inr rfl)).1] at hdata'
      rw [heldUnder, (objects_of_last (.inl rfl)).1, Option.some.inj hdata']
    · rw [(objects_of_last (.inr rfl)).2] at hdata'
      rw [heldUnder, (objects_of_last (.inl rfl)).2, Option.some.inj hdata']
  url_ne := by
    intro location url hmem hplace call hcall other hother
    rw [List.mem_singleton.mp hcall] at hother
    rw [List.mem_singleton.mp hother]
    rcases eq_of_needed (.map hmem hplace) with rfl | rfl
    · decide
    · decide
  not_held := by
    rintro location data hmem ⟨call, hcall, hdata⟩
    rw [List.mem_singleton.mp hcall, List.mem_singleton.mp hmem] at hdata
    have hnone : World.storeObjects (mapRead "two.ts").world
        ((versioned "3").key (inlineKey "app.js")).text = none := by cbv
    rw [hnone] at hdata
    cases hdata

/-- After a call under the third release, which holds the same as the second, a trace under the
second comes out as without it. -/
theorem sharing_after_third :
    let contents := heldUnder World.storeObjects threeReleases (versioned "2")
    let after := sharing.afterCalls [⟨versioned "3", some [firstPlace]⟩] unused
    HeldAll World.storeObjects threeReleases (versioned "2") ["app.js"] ∧
      Apart contents ["app.js"] ∧
      Agree World.storeObjects [⟨versioned "3", some [firstPlace]⟩] after.world contents
        ["app.js"] ∧
      Fits after.world.clock contents ["app.js"] after.cache ∧
      (sharing.trace (versioned "2") (some [firstPlace]) ⟨.make 256 3600, after.world⟩).1 =
        (sharing.trace (versioned "2") (some [firstPlace]) unused).1 ∧
      (sharing.trace (versioned "2") (some [firstPlace]) after).1 =
        (sharing.trace (versioned "2") (some [firstPlace]) unused).1 := by
  intro contents after
  have working := World.working_services .memory Settings.default.maxArtifactBytes
  have agree : Agree World.storeObjects [⟨versioned "3", some [firstPlace]⟩] after.world contents
      ["app.js"] := by
    have hafter : after = mapRead "two.ts" := afterCalls_unused (.inr ⟨rfl, rfl⟩)
    rw [hafter]
    exact agree_third
  have hfits : Fits after.world.clock contents ["app.js"] after.cache :=
    agree.fits (sound_callLedger (t := sharing) working 256 3600 _ threeReleases)
  obtain ⟨hnew, -, hagree⟩ := trace_afterCalls_eq_of_held (t := sharing) working 256 3600
    [⟨versioned "3", some [firstPlace]⟩] [firstPlace] heldAll_two apart_two
  exact ⟨heldAll_two, apart_two, agree, hfits, hnew, hagree agree⟩

/-- A call under the second release that finds the cache of the first. -/
lemma frame_second_of_mapRead :
    (sharing.frame (versioned "2") firstPlace (mapRead "one.ts")).1 =
      .ok (firstPlaceOf "one.ts") := by
  have hname : firstPlace.fileName = "app.js" := rfl
  obtain ⟨s, hsource, s', hmap⟩ :
      ∃ s, sharing.source (versioned "2") "app.js" (mapRead "one.ts") = (.ok script, s) ∧
        ∃ s', sharing.externalMap (versioned "2") "app.js.map" s = (.ok (mapTo "one.ts"), s') :=
    ⟨_, rfl, _, rfl⟩
  simp only [Tracer.frame, hname, hsource, mapOf?_script, Tracer.map, hmap, Except.map]
  exact resolve?_mapTo "app.js" (parse?_mapData (.inl rfl)).2 (by cbv)

/-- A call under the first release leaks into the second: the store holds all that the trace needs
under the second release, and yet the trace is given by the map of the first. -/
theorem first_served_for_second :
    sharing.services.Working (World.storeAccess false false) World.storeObjects World.clock ∧
      versioned "1" ≠ versioned "2" ∧
      HeldAll World.storeObjects threeReleases (versioned "2") ["app.js"] ∧
      (sharing.trace (versioned "2") (some [firstPlace]) unused).1 =
        .ok [firstPlaceOf "two.ts"] ∧
      (sharing.trace (versioned "2") (some [firstPlace])
        (sharing.afterCalls [⟨versioned "1", some [firstPlace]⟩] unused)).1 =
          .ok [firstPlaceOf "one.ts"] := by
  have working := World.working_services .memory Settings.default.maxArtifactBytes
  refine ⟨working, by decide, heldAll_two, ?_, ?_⟩
  · have htrace := trace_eq_of_held (t := sharing) working [firstPlace] heldAll_two
      apart_two (.refl threeReleases) (fits_make 256 3600)
    rw [unused, htrace, directFrames, List.map_cons, direct_two]
    rfl
  · rw [afterCalls_unused (.inl ⟨rfl, rfl⟩)]
    simp only [Tracer.trace, frames, frame_second_of_mapRead]
    rfl

/-! ### Clashing keys -/

/-- A file whose map has a location that is the key of the map that another file holds itself. -/
def clashing : Bytes := Utf8.ofString "//# sourceMappingURL=b.js#sourceMappingURL"

/-- A file that holds a broken map itself. -/
def broken : Bytes := Utf8.ofString "//# sourceMappingURL=data:,x"

/-- A store with both files in one release and an empty file in another. -/
def twoKinds : World :=
  { World.make ⟨fun _ => .error .missing⟩ .down with
    store := ⟨[("1/2/disk/rel/a.js", clashing), ("1/2/disk/rel/b.js", broken),
      ("1/2/disk/rel/b.js#sourceMappingURL", mapData "two.ts"), ("1/1/disk/rel/lib.js", [])]⟩ }

/-- A clock that leaps ahead by ten seconds at its eighth reading. -/
def leap (w : World) : ℕ :=
  if w.clock < 7 then w.clock else 10000000000

/-- A tracer with a store and that clock. -/
def leaping : Tracer World where
  services := { sharing.services with now := fun w => (leap w, { w with clock := w.clock + 1 }) }
  contextLines := sharing.contextLines

/-- That tracer with a new cache, whose entries live for a second. -/
def unusedAt (clock : ℕ) : State World :=
  ⟨.make 256 1, { twoKinds with clock }⟩

/-- The frames of the two files. -/
def clashingFrames : List StackFrame :=
  [⟨"a.js", 1, 0⟩, ⟨"b.js", 1, 0⟩]

/-- The leaping clock does not run backwards. -/
lemma working_leaping :
    leaping.services.Working (World.storeAccess false false) World.storeObjects leap := by
  have working := World.working_services .memory Settings.default.maxArtifactBytes
  have hleap : ∀ w : World, leap w ≤ leap { w with clock := w.clock + 1 } := by
    intro w
    unfold leap
    dsimp only
    split_ifs <;> omega
  exact
    { store_eq := rfl
      works := working.works
      objects_fetch := working.objects_fetch
      objects_now := fun _ => rfl
      time_le_now := fun _ => le_rfl
      time_now := hleap
      time_fetch := fun _ _ => le_rfl
      time_get := fun _ _ => le_rfl
      time_put := fun _ _ _ => le_rfl }

/-- Where the map of the first file is. -/
lemma mapOf?_clashing : mapOf? "a.js" clashing = .ok (.external "b.js#sourceMappingURL") := by
  have hfind : Directive.find? (Utf8.lossy clashing) = some "b.js#sourceMappingURL".toList := by
    cbv
  have hresolve : MapLocation.resolve? "a.js" "b.js#sourceMappingURL" =
      .ok (.external "b.js#sourceMappingURL") :=
    (MapLocation.resolve?_beside (by cbv) (by cbv) (by cbv)).trans (by cbv)
  simp only [mapOf?, hfind, String.ofList_toList, hresolve]

/-- What the second file holds as its map. -/
lemma mapOf?_broken : mapOf? "b.js" broken = .ok (.inline [120]) := by
  have hfind : Directive.find? (Utf8.lossy broken) = some "data:,x".toList := by cbv
  have hafter : Text.after? MapLocation.dataMark "data:,x".toList = some ",x".toList := by cbv
  have hsplit : Text.splitFirst? [','] ",x".toList = some ([], ['x']) := by cbv
  have hmedia : MapLocation.saysBase64 [] = false := by cbv
  have hpayload : Percent.decode (Utf8.encode ['x']) = [120] := by cbv
  obtain ⟨text, htext⟩ : ∃ text, Utf8.decode? [120] = .ok text := ⟨_, by cbv⟩
  have hdata : MapLocation.inlineData? ",x".toList = .ok [120] := by
    simp only [MapLocation.inlineData?, hsplit, hmedia, hpayload, htext, Bool.false_eq_true,
      if_false]
  simp only [mapOf?, hfind, MapLocation.resolve?, String.toList_ofList, hafter, hdata]

/-- The store holds all that the two files need. -/
lemma heldAll_clashing :
    HeldAll World.storeObjects twoKinds (versioned "2") (fileNames clashingFrames) := by
  have ha : World.storeObjects twoKinds ((versioned "2").key "a.js").text = some clashing := by cbv
  have hb : World.storeObjects twoKinds ((versioned "2").key "b.js").text = some broken := by cbv
  have hfiles : ∀ location ∈ fileNames clashingFrames, location = "a.js" ∨ location = "b.js" := by
    intro location hl
    simpa [fileNames, clashingFrames] using hl
  intro location hneeded
  cases hneeded with
  | file hmem =>
    rcases hfiles location hmem with rfl | rfl
    · rw [ha]
      rfl
    · rw [hb]
      rfl
  | map hmem hplace =>
    rcases hfiles _ hmem with rfl | rfl
    · rw [placeOf?, heldUnder, ha] at hplace
      dsimp only at hplace
      rw [mapOf?_clashing] at hplace
      cases hplace
      cbv
    · rw [placeOf?, heldUnder, hb] at hplace
      dsimp only at hplace
      rw [mapOf?_broken] at hplace
      cases hplace

/-- What the tracer has changed after the frame of the first file, four readings of the clock
later. -/
def afterClashing (clock : ℕ) : State World :=
  ⟨⟨⟨256, 1000000000, [("a.js", ⟨clashing, clock + 1, clock + 1000000001⟩)], false⟩,
    ⟨256, 1000000000,
      [("b.js#sourceMappingURL", ⟨mapTo "two.ts", clock + 3, clock + 1000000003⟩)], false⟩⟩,
    { twoKinds with clock := clock + 4 }⟩

/-- The first file gets its map, whether the clock was read before or not. -/
lemma frame_clashing {clock : ℕ} (hclock : clock = 0 ∨ clock = 2) :
    leaping.frame (versioned "2") ⟨"a.js", 1, 0⟩ (unusedAt clock) =
      (.ok (firstPlaceOf "two.ts"), afterClashing clock) := by
  obtain ⟨hparse, hurl⟩ := parse?_mapData (.inr rfl)
  obtain ⟨s₁, hsource, s₂, hcached, hload, hkeep⟩ :
      ∃ s₁, leaping.source (versioned "2") "a.js" (unusedAt clock) = (.ok clashing, s₁) ∧
        ∃ s₂, leaping.cachedMap? "b.js#sourceMappingURL" s₁ = (none, s₂) ∧
          leaping.load (versioned "2") "b.js#sourceMappingURL" s₂ =
            (.ok (mapData "two.ts"), s₂) ∧
          leaping.keepMap "b.js#sourceMappingURL" (mapTo "two.ts") s₂ = afterClashing clock := by
    rcases hclock with rfl | rfl <;> exact ⟨_, rfl, _, rfl, rfl, rfl⟩
  have hmap : leaping.externalMap (versioned "2") "b.js#sourceMappingURL" s₁ =
      (.ok (mapTo "two.ts"), afterClashing clock) := by
    simp only [externalMap, hcached, hload, decode?, hparse, hkeep]
  simp only [Tracer.frame, hsource, mapOf?_clashing, Tracer.map, hmap, Except.map]
  exact congrArg (fun result => (result, afterClashing clock))
    (resolve?_mapTo "a.js" hurl (by cbv))

/-- The second file finds the map of the first while that is alive. -/
lemma frame_broken_of_alive :
    (leaping.frame (versioned "2") ⟨"b.js", 1, 0⟩ (afterClashing 0)).1 =
      .ok (firstPlaceOf "two.ts") := by
  obtain ⟨s, hsource, s', hmap⟩ :
      ∃ s, leaping.source (versioned "2") "b.js" (afterClashing 0) = (.ok broken, s) ∧
        ∃ s', leaping.inlineMap "b.js" [120] s = (.ok (mapTo "two.ts"), s') :=
    ⟨_, rfl, _, rfl⟩
  simp only [Tracer.frame, hsource, mapOf?_broken, Tracer.map, hmap, Except.map]
  exact resolve?_mapTo "b.js" (parse?_mapData (.inr rfl)).2 (by cbv)

/-- The second file has a broken map once that of the first has expired. -/
lemma frame_broken_of_expired :
    ∃ failure, (leaping.frame (versioned "2") ⟨"b.js", 1, 0⟩ (afterClashing 2)).1 =
      .error failure := by
  obtain ⟨e, hparse⟩ : ∃ e, SourceMap.parse? [120] = .error e := ⟨_, by cbv⟩
  obtain ⟨s, hsource, s', hcached⟩ :
      ∃ s, leaping.source (versioned "2") "b.js" (afterClashing 2) = (.ok broken, s) ∧
        ∃ s', leaping.cachedMap? (inlineKey "b.js") s = (none, s') :=
    ⟨_, rfl, _, rfl⟩
  refine ⟨.decode "b.js" e, ?_⟩
  simp only [Tracer.frame, hsource, mapOf?_broken, Tracer.map, inlineMap, hcached, decode?, hparse,
    Except.map]

/-- Without keys that are apart a trace depends on the time that earlier calls take, even with a new
cache: the map of one file is served for another while it is alive. -/
theorem clash_depends_on_time :
    let start := unusedAt 0
    let after := leaping.afterCalls [⟨versioned "1", some [⟨"lib.js", 1, 0⟩]⟩] start
    leaping.services.Working (World.storeAccess false false) World.storeObjects leap ∧
      HeldAll World.storeObjects twoKinds (versioned "2") (fileNames clashingFrames) ∧
      (leaping.trace (versioned "2") (some clashingFrames) ⟨.make 256 1, after.world⟩).1 ≠
        (leaping.trace (versioned "2") (some clashingFrames) start).1 := by
  have hplace : mapOf? "lib.js" [] = .error (.noDirective "lib.js") := by cbv
  have hafter : (leaping.afterCalls [⟨versioned "1", some [⟨"lib.js", 1, 0⟩]⟩] (unusedAt 0)).world =
      { twoKinds with clock := 2 } := by
    obtain ⟨s, hsource, hworld⟩ : ∃ s, leaping.source (versioned "1") "lib.js" (unusedAt 0) =
        (.ok [], s) ∧ s.world = { twoKinds with clock := 2 } := ⟨_, rfl, rfl⟩
    simp only [afterCalls, Tracer.trace, frames, Tracer.frame, hsource, hplace, hworld]
  refine ⟨working_leaping, heldAll_clashing, ?_⟩
  obtain ⟨failure, hexpired⟩ := frame_broken_of_expired
  have hlate : (leaping.trace (versioned "2") (some clashingFrames) (unusedAt 2)).1 =
      .ok [firstPlaceOf "two.ts", .failed ⟨"b.js", 1, 0⟩ failure.message] := by
    simp only [Tracer.trace, clashingFrames, frames, frame_clashing (.inr rfl), hexpired, outcome]
  have hearly : (leaping.trace (versioned "2") (some clashingFrames) (unusedAt 0)).1 =
      .ok [firstPlaceOf "two.ts", firstPlaceOf "two.ts"] := by
    simp only [Tracer.trace, clashingFrames, frames, frame_clashing (.inl rfl),
      frame_broken_of_alive, outcome]
  rw [hafter]
  change (leaping.trace (versioned "2") (some clashingFrames) (unusedAt 2)).1 ≠ _
  rw [hlate, hearly]
  intro heq
  have hsecond := (List.cons.inj (List.cons.inj (Except.ok.inj heq)).2).1
  have herror : some failure.message = none := congrArg TracedFrame.error hsecond
  cases herror

end Tracer

end Retrace
