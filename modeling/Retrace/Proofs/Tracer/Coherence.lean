import Mathlib
import Retrace.Proofs.Tracer.CacheTransparency
import Retrace.Proofs.Tracer.InlineMaps

/-!
# Maps in the cache and maps of files

A tracer without a store, whose fetcher always gives the same answer for a location, keeps in its
cache the maps of the generated files that it has met, each under the key of its place. There are
two kinds of places, and so there are two kinds of keys: the location of a map, and
`L#sourceMappingURL` for the map that the file at `L` holds itself.

So what is served for a file is the map of some place with the same key (`cachedMap?_coherent`). Two
places of one kind with the same key are the same place, and the map is the right one. But a file
may name `L#sourceMappingURL` as the location of its map, and the two kinds do not know of each
other: then one file is served the map of another (`map_served_for_other`).
-/

namespace Retrace

namespace Tracer

variable {σ : Type} {t : Tracer σ} {good : σ → Prop} {answer : Contents} {locations : List String}

/-! ### Maps by the keys of their places -/

/-- The map of one of the generated files at some locations, by the key of its place. -/
def IsMapOfFile (answer : Contents) (locations : List String) (key : String) (map : SourceMap) :
    Prop :=
  ∃ location ∈ locations, ∃ place, placeOf? answer location = .ok place ∧
    mapKey location place = key ∧ mapAt? answer location place = .ok map

/-- The ledger of a fetcher that always gives the same answers. -/
def answerLedger (good : σ → Prop) (answer : Contents) (locations : List String) : Ledger σ where
  world := good
  loaded _ location result := result = answer location
  source _ location data := answer location = .ok data
  map _ := IsMapOfFile answer locations

/-- Steady services keep to the ledger of their answers. -/
lemma kept_answerLedger (steady : t.services.Steady good answer) (release : Release)
    {files : List String} (hfiles : ∀ location ∈ files, location ∈ locations) :
    (answerLedger good answer locations).Kept t release 0 files where
  world_now := steady.now
  stays_now := fun _ => ⟨id, id⟩
  le_now := fun _ => Nat.zero_le _
  world_load := fun location h => steady.load release location h
  stays_load := fun _ _ => ⟨id, id⟩
  loaded := fun location h => steady.load_eq release location h
  source := fun _ _ hload => hload.symm
  inlineMap := by
    intro w location text data map _ hfile hsource hplace hmap
    have hplace' : placeOf? answer location = .ok (.inline data) :=
      (placeOf?_of_eq_ok hsource).trans hplace
    exact ⟨location, hfiles location hfile, .inline data, hplace', rfl, hmap⟩
  externalMap := by
    intro w location url text data map _ hfile hsource hplace hload hmap
    have hplace' : placeOf? answer location = .ok (.external url) :=
      (placeOf?_of_eq_ok hsource).trans hplace
    have hdata : answer url = .ok data := hload.symm
    have hat : mapAt? answer location (.external url) = .ok map := by
      rw [mapAt?, hdata]
      exact hmap
    exact ⟨location, hfiles location hfile, .external url, hplace', rfl, hat⟩

/-- **What the cache serves for a file.** After any calls, and after the frames before it, let the
generated file of a frame have its map at a place, and let the cache serve a map under the key of
that place. Then this is the map of a place with the same key, in the generated file of one of the
frames. It is the map of this very place if the keys are apart. -/
theorem cachedMap?_coherent (steady : t.services.Steady good answer) (capacity ttlSecs : ℕ)
    {w : σ} (hw : good w) (calls : List Call) (release : Release) (fs : List StackFrame) (i : ℕ)
    (f : StackFrame) (hf : fs[i]? = some f) (place : MapLocation) (map : SourceMap) :
    let locations := calls.flatMap Call.fileNames ++ fileNames fs
    let s := (t.frames release (fs.take i) (t.afterCalls calls ⟨.make capacity ttlSecs, w⟩)).2
    t.HasMapAt release f s place →
      (t.cachedMap? (mapKey f.fileName place) (t.source release f.fileName s).2).1 = some map →
      IsMapOfFile answer locations (mapKey f.fileName place) map ∧
        (Apart answer locations → mapAt? answer f.fileName place = .ok map) := by
  intro locations s hhas hserved
  have hcalls : ∀ call ∈ calls, ∀ location ∈ call.fileNames, location ∈ locations := by
    intro call hcall location hl
    exact List.mem_append_left _ (List.mem_flatMap.mpr ⟨call, hcall, hl⟩)
  have hfs : ∀ location ∈ fileNames fs, location ∈ locations := by
    intro location hl
    exact List.mem_append_right _ hl
  have kept := kept_answerLedger steady release hfs
  -- the ledger reaches the state before the frame
  have hafter : (answerLedger good answer locations).Sound 0
      (t.afterCalls calls ⟨.make capacity ttlSecs, w⟩) :=
    Ledger.sound_afterCalls
      (fun call hcall => kept_answerLedger steady call.release (hcalls call hcall))
      ⟨hw, Cache.holds_make capacity ttlSecs⟩
  have hs : (answerLedger good answer locations).Sound 0 s :=
    (kept.frames_spec hafter fun g hg => List.mem_map_of_mem (List.mem_of_mem_take hg)).1
  -- so the content of the file, and what is served for it, are what the answers say
  have hmem : f.fileName ∈ fileNames fs := List.mem_map_of_mem (List.mem_of_getElem? hf)
  obtain ⟨text, htext, hplace⟩ := hhas
  rcases hread : t.source release f.fileName s with ⟨result, s₁⟩
  rw [hread] at htext hserved
  obtain rfl : result = .ok text := htext
  obtain ⟨hnext, hsource⟩ := kept.source_spec hs hmem hread
  have hplace' : placeOf? answer f.fileName = .ok place :=
    (placeOf?_of_eq_ok hsource).trans hplace
  rcases hlook : t.cachedMap? (mapKey f.fileName place) s₁ with ⟨found, s₂⟩
  rw [hlook] at hserved
  have hmap : IsMapOfFile answer locations (mapKey f.fileName place) map :=
    (kept.cachedMap?_spec hnext.sound hlook).2 map hserved
  refine ⟨hmap, fun hapart => ?_⟩
  obtain ⟨other, hother, place', hplaceOther, hkey, hat⟩ := hmap
  rw [← mapAt?_eq_of_mapKey_eq hapart hother (hfs _ hmem) hplaceOther hplace' hkey]
  exact hat

/-! ### A map for two files -/

/-- What the locations of a world in memory hold. -/
def inMemory (w : World) : Contents := fun location =>
  (World.fetch .memory Settings.default.maxArtifactBytes location w).1

/-- Where the map of the file that holds it itself is. -/
lemma placeOf?_threeFiles :
    placeOf? (inMemory threeFiles) "b.js" = .ok (.inline (mapData "one.ts")) := by
  have hsource : inMemory threeFiles "b.js" = .ok (holding encodedOne) := rfl
  rw [placeOf?, hsource]
  exact mapOf?_holding (.inl ⟨rfl, rfl⟩) "b.js"

/-- A file that is met twice is served its own map the second time. -/
theorem holding_coherent :
    let s := (plain.frames (versioned "1") ([holdingPlace, holdingPlace].take 1) unusedRoom).2
    (plain.cachedMap? (inlineKey "b.js") (plain.source (versioned "1") "b.js" s).2).1 =
        some (mapTo "one.ts") ∧
      mapAt? (inMemory threeFiles) "b.js" (.inline (mapData "one.ts")) =
        .ok (mapTo "one.ts") := by
  intro s
  have hs : s = holdingRead := by
    change (plain.frames (versioned "1") [holdingPlace] unusedRoom).2 = holdingRead
    rw [frames_singleton, frame_unusedRoom]
  have hhas : plain.HasMapAt (versioned "1") holdingPlace s (.inline (mapData "one.ts")) := by
    rw [hs]
    exact ⟨holding encodedOne, rfl, mapOf?_holding (.inl ⟨rfl, rfl⟩) "b.js"⟩
  have hserved : (plain.cachedMap? (inlineKey "b.js")
      (plain.source (versioned "1") "b.js" s).2).1 = some (mapTo "one.ts") := by
    rw [hs]
    rfl
  have hapart : Apart (inMemory threeFiles) (fileNames [holdingPlace, holdingPlace]) := by
    intro location hlocation url hplace other hother
    have hname : location = "b.js" := by
      simpa [fileNames, holdingPlace] using hlocation
    rw [hname, placeOf?_threeFiles] at hplace
    cases hplace
  have steady := World.steady_services .memory Settings.default.maxArtifactBytes threeFiles
  exact ⟨hserved, (cachedMap?_coherent (t := plain) steady 1 3600 ⟨rfl, rfl, rfl⟩ []
    (versioned "1") [holdingPlace, holdingPlace] 1 holdingPlace rfl _ _ hhas hserved).2 hapart⟩

/-- The first place of the file that names the key of the map of the other as a location. -/
def clashingPlace : StackFrame := ⟨"a.js", 1, 0⟩

/-- After a frame of the file that holds its map, the other is served this map, and traced by it,
although another map stands at the location that it names. -/
theorem map_served_for_other :
    let place : MapLocation := .external "b.js#sourceMappingURL"
    let s := plain.afterCalls [⟨versioned "1", some [holdingPlace]⟩] unusedRoom
    plain.services.Steady (World.SameToFetch threeFiles) (inMemory threeFiles) ∧
      plain.HasMapAt (versioned "1") clashingPlace s place ∧
      (plain.cachedMap? "b.js#sourceMappingURL"
        (plain.source (versioned "1") "a.js" s).2).1 = some (mapTo "one.ts") ∧
      mapAt? (inMemory threeFiles) "a.js" place = .ok (mapTo "two.ts") ∧
      (plain.trace (versioned "1") (some [clashingPlace]) s).1 = .ok [firstPlaceOf "one.ts"] := by
  intro place s
  have hs : s = holdingRead := by
    change plain.afterCalls [⟨versioned "1", some [holdingPlace]⟩] unusedRoom = holdingRead
    rw [afterCalls, afterCalls, trace_singleton, frame_unusedRoom]
  obtain ⟨s₁, hsource, s₂, hserved⟩ :
      ∃ s₁, plain.source (versioned "1") "a.js" holdingRead = (.ok clashing, s₁) ∧
        ∃ s₂, plain.cachedMap? "b.js#sourceMappingURL" s₁ = (some (mapTo "one.ts"), s₂) :=
    ⟨_, rfl, _, rfl⟩
  have hmap : MapCourse plain (versioned "1") "a.js" s₁ (.external "b.js#sourceMappingURL")
      (.ok (mapTo "one.ts")) s₂ := .hit hserved
  have hresolve : resolve? plain.contextLines clashingPlace (mapTo "one.ts")
      "b.js#sourceMappingURL" = .ok (firstPlaceOf "one.ts") :=
    resolve?_mapTo "a.js" (parse?_mapData (.inl rfl)).2 (by cbv)
  have hframe : plain.frame (versioned "1") clashingPlace holdingRead =
      (.ok (firstPlaceOf "one.ts"), s₂) := by
    have hcourse := FrameCourse.resolved (f := clashingPlace) hsource mapOf?_clashing hmap
    exact hcourse.frame_eq.trans (Prod.ext hresolve rfl)
  have hdata : inMemory threeFiles "b.js#sourceMappingURL" = .ok (mapData "two.ts") := rfl
  have hat : mapAt? (inMemory threeFiles) "a.js" place = .ok (mapTo "two.ts") := by
    rw [mapAt?, hdata]
    exact decode?_mapData "b.js#sourceMappingURL" (.inr rfl)
  rw [hs]
  refine ⟨World.steady_services .memory Settings.default.maxArtifactBytes threeFiles,
    ⟨clashing, congrArg Prod.fst hsource, mapOf?_clashing⟩, ?_, hat, ?_⟩
  · rw [hsource, hserved]
  · rw [trace_singleton, hframe]
    rfl

end Tracer

end Retrace
