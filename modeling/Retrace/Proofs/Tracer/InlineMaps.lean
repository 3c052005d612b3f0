import Mathlib
import Retrace.Proofs.Tracer.Course
import Retrace.Proofs.Tracer.Direct
import Retrace.Proofs.Tracer.Releases

/-!
# Maps that generated files hold themselves

The content of a generated file and the map that it holds itself are kept in two maps of the cache,
which forget independently of each other. So a file may be loaded anew, with a new map in it, while
the map of its earlier content is still served, and then the frame is traced by the earlier map
(`earlier_map_served`).

How far this goes follows from where the maps in a cache come from. Whatever a session leaves in the
cache was put there by one of its frames (`holds_maps_afterMoments`), which read it from its
generated file or from the location that this file names. So a frame whose file holds a map is
traced by that map or by one that an earlier frame read under the same key (`trace_inlineMap`). It
found that map in the same file, unless some file names the key as a location.
-/

namespace Retrace

namespace Tracer

variable {σ : Type} {t : Tracer σ} {release : Release} {f : StackFrame} {s s' : State σ}
  {since : ℕ} {P : String → SourceMap → Prop}

/-! ### Where the maps in a cache come from -/

/-- The map that a frame reads anew, with its key: the one that its generated file holds itself, or
the one that is loaded from the location that the file names. -/
inductive Makes (t : Tracer σ) (release : Release) (f : StackFrame) (s : State σ) :
    String → SourceMap → Prop
  | inline {data : Bytes} {map : SourceMap} (hplace : t.HasMapAt release f s (.inline data))
      (hmap : decode? f.fileName data = .ok map) : Makes t release f s (inlineKey f.fileName) map
  | external {url : String} {data : Bytes} {map : SourceMap}
      (hplace : t.HasMapAt release f s (.external url))
      (hload : (t.load release url
        (t.cachedMap? url (t.source release f.fileName s).2).2).1 = .ok data)
      (hmap : decode? url data = .ok map) : Makes t release f s url map

/-- A map that was read anew by a frame in the course of a session. -/
def MadeIn (t : Tracer σ) (start : State σ) (moments : List (Moment σ)) (key : String)
    (map : SourceMap) : Prop :=
  ∃ before release f later, moments = before ++ .frame release f :: later ∧
    Makes t release f (t.afterMoments before start) key map

/-- A frame in the course of a session found a map in the generated file at a location. -/
def FoundIn (t : Tracer σ) (start : State σ) (moments : List (Moment σ)) (location : String)
    (map : SourceMap) : Prop :=
  ∃ before release f later data, moments = before ++ .frame release f :: later ∧
    f.fileName = location ∧ t.HasMapAt release f (t.afterMoments before start) (.inline data) ∧
    decode? location data = .ok map

/-- The generated file of a frame in the course of a session named a location as that of its
map. -/
def NamedIn (t : Tracer σ) (start : State σ) (moments : List (Moment σ)) (url : String) : Prop :=
  ∃ before release f later, moments = before ++ .frame release f :: later ∧
    t.HasMapAt release f (t.afterMoments before start) (.external url)

/-- Getting a generated file leaves the maps alone. -/
lemma maps_source (t : Tracer σ) (release : Release) (location : String) (s : State σ) :
    (t.source release location s).2.cache.maps = s.cache.maps := by
  -- looking for content and loading it give back the maps of the cache as they are
  have hlook : ∀ {found s₁}, t.cachedSource? location s = (found, s₁) →
      s₁.cache.maps = s.cache.maps := by
    intro found s₁ h
    obtain ⟨-, rfl⟩ := Prod.mk.inj h
    rfl
  have hload : ∀ {result s₁ s₂}, t.load release location s₁ = (result, s₂) →
      s₂.cache.maps = s₁.cache.maps := by
    intro result s₁ s₂ h
    obtain ⟨-, rfl⟩ := Prod.mk.inj h
    rfl
  have hcourse := sourceCourse t release location s
  generalize (t.source release location s).1 = result at hcourse
  generalize (t.source release location s).2 = s' at hcourse ⊢
  cases hcourse with
  | hit hcached => exact hlook hcached
  | lost hcached hl => exact (hload hl).trans (hlook hcached)
  | loaded hcached hl => exact (hload hl).trans (hlook hcached)

/-- Looking for a map keeps what is true of all maps. -/
lemma holds_maps_of_cachedMap? {key : String} {found : Option SourceMap}
    (h : s.cache.maps.Holds since P) (heq : t.cachedMap? key s = (found, s')) :
    s'.cache.maps.Holds since P := by
  obtain ⟨-, rfl⟩ := Prod.mk.inj heq
  exact h.get? _ key

/-- Loading keeps what is true of all maps. -/
lemma holds_maps_of_load {location : String} {result : Except Fetch.Error Bytes}
    (h : s.cache.maps.Holds since P) (heq : t.load release location s = (result, s')) :
    s'.cache.maps.Holds since P := by
  obtain ⟨-, rfl⟩ := Prod.mk.inj heq
  exact h

/-- A frame puts into the cache only a map that it reads anew. -/
lemma holds_maps_frame (h : s.cache.maps.Holds since P) :
    (t.frame release f s).2.cache.maps.Holds since
      fun key map => P key map ∨ Makes t release f s key map := by
  have hkept : ∀ {c : ExpiringMap SourceMap}, c.Holds since P →
      c.Holds since fun key map => P key map ∨ Makes t release f s key map :=
    fun hc => hc.imp fun _ _ => .inl
  have hsource := maps_source t release f.fileName s
  have hcourse := frameCourse t release f s
  generalize (t.frame release f s).1 = result at hcourse
  generalize (t.frame release f s).2 = s' at hcourse ⊢
  have hafter : ∀ {result s₁}, t.source release f.fileName s = (result, s₁) →
      s₁.cache.maps.Holds since P := by
    intro result s₁ heq
    rw [heq] at hsource
    rw [hsource]
    exact h
  cases hcourse with
  | noFile heq => exact hkept (hafter heq)
  | noPlace heq => exact hkept (hafter heq)
  | noMap heq _ hmap =>
    cases hmap with
    | inlineBad hcached => exact hkept (holds_maps_of_cachedMap? (hafter heq) hcached)
    | externalLost hcached hload =>
      exact hkept (holds_maps_of_load (holds_maps_of_cachedMap? (hafter heq) hcached) hload)
    | externalBad hcached hload =>
      exact hkept (holds_maps_of_load (holds_maps_of_cachedMap? (hafter heq) hcached) hload)
  | @resolved text place map s₁ _ heq hplace hmap =>
    have hat : t.HasMapAt release f s place := ⟨text, congrArg Prod.fst heq, hplace⟩
    cases hmap with
    | hit hcached => exact hkept (holds_maps_of_cachedMap? (hafter heq) hcached)
    | inlineRead hcached hdecode =>
      exact (hkept (holds_maps_of_cachedMap? (hafter heq) hcached)).insert _ _
        (.inr (.inline hat hdecode))
    | @externalRead url data _ s₂ s₃ hcached hload hdecode =>
      have hloaded : (t.load release url
          (t.cachedMap? url (t.source release f.fileName s).2).2).1 = .ok data := by
        rw [heq, hcached, hload]
      exact (hkept (holds_maps_of_load (holds_maps_of_cachedMap? (hafter heq) hcached)
        hload)).insert _ _ (.inr (.external hat hloaded hdecode))

/-- What was made in the course of a session was made in the course of a longer one. -/
lemma MadeIn.append {start : State σ} {moments : List (Moment σ)} {key : String} {map : SourceMap}
    (h : MadeIn t start moments key map) (moment : Moment σ) :
    MadeIn t start (moments ++ [moment]) key map := by
  obtain ⟨before, release, f, later, rfl, hmakes⟩ := h
  exact ⟨before, release, f, later ++ [moment], by simp, hmakes⟩

/-- Whatever a session leaves in the cache was there before or was put there by one of its
frames. -/
lemma holds_maps_moments (h : s.cache.maps.Holds since P) (moments : List (Moment σ)) :
    (t.afterMoments moments s).cache.maps.Holds since
      fun key map => P key map ∨ MadeIn t s moments key map := by
  induction moments using List.reverseRecOn with
  | nil => exact h.imp fun _ _ => .inl
  | append_singleton moments moment ih =>
    rw [afterMoments_append]
    cases moment with
    | frame release f =>
      refine (holds_maps_frame ih).imp ?_
      rintro key map ((hbefore | hmade) | hmakes)
      · exact .inl hbefore
      · exact .inr (hmade.append _)
      · exact .inr ⟨moments, release, f, [], rfl, hmakes⟩
    | change change => exact ih.imp fun _ _ => Or.imp_right fun hmade => hmade.append _

/-- Whatever a session leaves in a new cache was put there by one of its frames. -/
lemma holds_maps_afterMoments (t : Tracer σ) (capacity ttlSecs : ℕ) (w : σ)
    (moments : List (Moment σ)) :
    (t.afterMoments moments ⟨.make capacity ttlSecs, w⟩).cache.maps.Holds 0
      (MadeIn t ⟨.make capacity ttlSecs, w⟩ moments) := by
  have hnew : (State.mk (.make capacity ttlSecs) w).cache.maps.Holds 0 fun _ _ => False :=
    ExpiringMap.holds_empty _ _
  exact (holds_maps_moments hnew moments).imp fun _ _ hmade => hmade.resolve_left id

/-- A map that is served under the key of the map in a generated file was found in this file, unless
a file named that key as a location. -/
lemma MadeIn.foundIn {start : State σ} {moments : List (Moment σ)} {location : String}
    {map : SourceMap} (h : MadeIn t start moments (inlineKey location) map)
    (hnamed : ¬ NamedIn t start moments (inlineKey location)) :
    FoundIn t start moments location map := by
  obtain ⟨before, release, f, later, hmoments, hmakes⟩ := h
  generalize hkey : inlineKey location = key at hmakes hnamed
  cases hmakes with
  | @inline data _ hplace hmap =>
    obtain rfl := inlineKey_inj.mp hkey
    exact ⟨before, release, f, later, data, hmoments, rfl, hplace, hmap⟩
  | external hplace => exact absurd ⟨before, release, f, later, hmoments, hplace⟩ hnamed

/-! ### Frames whose files hold their maps -/

/-- A frame whose file holds a map is traced by the map that is served under its key, or else by
that map. -/
lemma frame_of_inline {data : Bytes} {map : SourceMap}
    (hplace : t.HasMapAt release f s (.inline data)) (hmap : decode? f.fileName data = .ok map) :
    (t.frame release f s).1 = resolve? t.contextLines f
      (((t.cachedMap? (inlineKey f.fileName) (t.source release f.fileName s).2).1).getD map)
      f.fileName := by
  obtain ⟨text, htext, hplace⟩ := hplace
  rcases hsource : t.source release f.fileName s with ⟨result, s₁⟩
  rw [hsource] at htext
  obtain rfl : result = .ok text := htext
  rcases hcached : t.cachedMap? (inlineKey f.fileName) s₁ with ⟨found, s₂⟩
  cases found with
  | some served =>
    have hcourse : MapCourse t release f.fileName s₁ (.inline data) (.ok served) s₂ := .hit hcached
    exact congrArg Prod.fst (FrameCourse.resolved hsource hplace hcourse).frame_eq
  | none =>
    have hcourse : MapCourse t release f.fileName s₁ (.inline data) (.ok map) _ :=
      .inlineRead hcached hmap
    exact congrArg Prod.fst (FrameCourse.resolved hsource hplace hcourse).frame_eq

/-- **A map in a generated file.** In every session of a tracer with a new cache, in which frames
are traced and the world changes, let the generated file of a frame hold a map itself. Then the
frame is traced by what the cache serves under the key of that map, or else by the map. Whatever is
served there an earlier frame read anew under this key, and found in the same file unless some file
named the key as a location. So the frame is traced by its map if nothing else was read under the
key. -/
theorem trace_inlineMap (t : Tracer σ) (capacity ttlSecs : ℕ) (w : σ) (session : List (Moment σ))
    (release : Release) (fs : List StackFrame) (i : ℕ) (f : StackFrame) (hf : fs[i]? = some f)
    (data : Bytes) (map : SourceMap) :
    let start : State σ := ⟨.make capacity ttlSecs, w⟩
    let earlier := session ++ callMoments release (fs.take i)
    let s := t.afterMoments earlier start
    let served := (t.cachedMap? (inlineKey f.fileName) (t.source release f.fileName s).2).1
    t.HasMapAt release f s (.inline data) → decode? f.fileName data = .ok map →
      ∃ traced, (t.trace release (some fs) (t.afterMoments session start)).1 = .ok traced ∧
        traced[i]? =
          some (outcome f (resolve? t.contextLines f (served.getD map) f.fileName)) ∧
        (∀ old, served = some old →
          MadeIn t start earlier (inlineKey f.fileName) old ∧
          (¬ NamedIn t start earlier (inlineKey f.fileName) →
            FoundIn t start earlier f.fileName old)) ∧
        ((∀ old, MadeIn t start earlier (inlineKey f.fileName) old → old = map) →
          traced[i]? = some (outcome f (resolve? t.contextLines f map f.fileName))) := by
  intro start earlier s served hplace hmap
  have hstate : s = (t.frames release (fs.take i) (t.afterMoments session start)).2 := by
    change t.afterMoments earlier start = _
    rw [afterMoments_append, afterMoments_call]
    rfl
  have hframe : (t.frames release fs (t.afterMoments session start)).1[i]? =
      some (outcome f (resolve? t.contextLines f (served.getD map) f.fileName)) := by
    rw [getElem?_frames, hf, ← hstate, Option.map_some, frame_of_inline hplace hmap]
  have hmade : ∀ old, served = some old →
      MadeIn t start earlier (inlineKey f.fileName) old := by
    intro old hold
    have hmaps : (t.source release f.fileName s).2.cache.maps.Holds 0 (MadeIn t start earlier) := by
      rw [maps_source]
      exact holds_maps_afterMoments t capacity ttlSecs w earlier
    exact hmaps.of_get? (Nat.zero_le _) hold
  refine ⟨_, rfl, hframe, fun old hold => ⟨hmade old hold, (hmade old hold).foundIn⟩,
    fun hsame => ?_⟩
  have hgetD : served.getD map = map := by
    cases hcase : served with
    | none => rfl
    | some old => exact hsame old (hmade old hcase)
  rw [← hgetD]
  exact hframe

/-! ### A file that is loaded anew -/

/-- A file that holds a map itself, whose text is given in base64. -/
def holding (encoded : String) : Bytes :=
  Utf8.ofString ("//# sourceMappingURL=data:;base64," ++ encoded)

/-- The text of the map to the first source. -/
def encodedOne : String :=
  "eyJ2ZXJzaW9uIjozLCJzb3VyY2VzIjpbIm9uZS50cyJdLCJtYXBwaW5ncyI6IkFBQUEifQ=="

/-- The text of the map to the second source. -/
def encodedTwo : String :=
  "eyJ2ZXJzaW9uIjozLCJzb3VyY2VzIjpbInR3by50cyJdLCJtYXBwaW5ncyI6IkFBQUEifQ=="

/-- The directives of such files. -/
lemma find?_holding {encoded : String} (h : encoded = encodedOne ∨ encoded = encodedTwo) :
    Directive.find? (Utf8.lossy (holding encoded)) = some ("data:;base64," ++ encoded).toList := by
  rcases h with rfl | rfl <;> cbv

/-- What such directives hold. -/
lemma inlineData?_encoded {encoded source : String}
    (h : encoded = encodedOne ∧ source = "one.ts" ∨ encoded = encodedTwo ∧ source = "two.ts") :
    MapLocation.inlineData? (";base64," ++ encoded).toList = .ok (mapData source) := by
  rcases h with ⟨rfl, rfl⟩ | ⟨rfl, rfl⟩ <;> cbv

/-- Where the maps of such files are. -/
lemma mapOf?_holding {encoded source : String}
    (h : encoded = encodedOne ∧ source = "one.ts" ∨ encoded = encodedTwo ∧ source = "two.ts")
    (location : String) : mapOf? location (holding encoded) = .ok (.inline (mapData source)) := by
  have hafter : Text.after? MapLocation.dataMark ("data:;base64," ++ encoded).toList =
      some (";base64," ++ encoded).toList := by
    rw [String.toList_append, String.toList_append]
    rfl
  have hfind := find?_holding (h.imp And.left And.left)
  simp only [mapOf?, hfind, MapLocation.resolve?, String.toList_ofList, hafter,
    inlineData?_encoded h]

/-- What such files hold can be read. -/
lemma decode?_mapData (location : String) {source : String}
    (h : source = "one.ts" ∨ source = "two.ts") :
    decode? location (mapData source) = .ok (mapTo source) := by
  rw [decode?, (parse?_mapData h).1]

/-- A tracer without a store. -/
def plain : Tracer World :=
  World.tracer Settings.default .memory .none

/-- A world with a file that holds a map itself, an empty file, and a file whose map has the
location that is the key of the first map. -/
def threeFiles : World :=
  { World.make ⟨fun _ => .error .missing⟩ .down with
    artifacts :=
      [("b.js", .ok (holding encodedOne)), ("lib.js", .ok []), ("a.js", .ok clashing),
        ("b.js#sourceMappingURL", .ok (mapData "two.ts"))] }

/-- The first place of the file that holds a map itself. -/
def holdingPlace : StackFrame := ⟨"b.js", 1, 0⟩

/-- A new version of this file, with another map. -/
def renew (w : World) : World :=
  { w with artifacts := w.artifacts.put "b.js" (.ok (holding encodedTwo)) }

/-- A call on this file and one on the empty file, after which the first is renewed. -/
def renewal : List (Moment World) :=
  callMoments (versioned "1") [holdingPlace] ++ callMoments (versioned "1") [⟨"lib.js", 1, 0⟩] ++
    [.change renew]

/-- A tracer with room for one entry of each kind, before any call. -/
def unusedRoom : State World :=
  ⟨.make 1 3600, threeFiles⟩

/-- What the tracer has changed after the first file. -/
def holdingRead : State World :=
  ⟨⟨⟨1, 3600000000000, [("b.js", ⟨holding encodedOne, 1, 3600000000001⟩)], false⟩,
    ⟨1, 3600000000000, [(inlineKey "b.js", ⟨mapTo "one.ts", 3, 3600000000003⟩)], false⟩⟩,
    { threeFiles with clock := 4, asked := ["b.js"] }⟩

/-- What it has changed after the empty file, for which the first file has had to make room in the
cache, but not the map of the first. -/
def mapOutlives : State World :=
  ⟨⟨⟨1, 3600000000000, [("lib.js", ⟨[], 6, 3600000000006⟩)], false⟩,
    ⟨1, 3600000000000, [(inlineKey "b.js", ⟨mapTo "one.ts", 3, 3600000000003⟩)], false⟩⟩,
    { threeFiles with clock := 7, asked := ["b.js", "lib.js"] }⟩

/-- What maps to sources that are no URLs give for the first place of the file. -/
lemma resolve?_holdingPlace {source : String} (h : source = "one.ts" ∨ source = "two.ts") :
    resolve? plain.contextLines holdingPlace (mapTo source) "b.js" = .ok (firstPlaceOf source) :=
  resolve?_mapTo "b.js" (parse?_mapData h).2 (by cbv)

/-- The first file is traced by the map in it. -/
lemma frame_unusedRoom :
    plain.frame (versioned "1") holdingPlace unusedRoom =
      (.ok (firstPlaceOf "one.ts"), holdingRead) := by
  have hplace := mapOf?_holding (.inl ⟨rfl, rfl⟩) "b.js"
  have hdecode := decode?_mapData "b.js" (.inl rfl)
  obtain ⟨s₁, hsource, s₂, hcached, hkeep⟩ :
      ∃ s₁, plain.source (versioned "1") "b.js" unusedRoom = (.ok (holding encodedOne), s₁) ∧
        ∃ s₂, plain.cachedMap? (inlineKey "b.js") s₁ = (none, s₂) ∧
          plain.keepMap (inlineKey "b.js") (mapTo "one.ts") s₂ = holdingRead :=
    ⟨_, rfl, _, rfl, rfl⟩
  have hcourse := FrameCourse.resolved (f := holdingPlace) hsource hplace
    (.inlineRead hcached hdecode)
  exact hcourse.frame_eq.trans (Prod.ext (resolve?_holdingPlace (.inl rfl)) hkeep)

/-- The empty file has no map. -/
lemma frame_holdingRead :
    plain.frame (versioned "1") ⟨"lib.js", 1, 0⟩ holdingRead =
      (.error (.noDirective "lib.js"), mapOutlives) := by
  have hplace : mapOf? "lib.js" [] = .error (.noDirective "lib.js") := by cbv
  have hsource : plain.source (versioned "1") "lib.js" holdingRead = (.ok [], mapOutlives) := rfl
  exact (FrameCourse.noPlace (f := ⟨"lib.js", 1, 0⟩) hsource hplace).frame_eq

/-- What the session leaves. -/
lemma afterMoments_renewal :
    plain.afterMoments renewal unusedRoom =
      { mapOutlives with world := renew mapOutlives.world } := by
  have hfirst : plain.afterMoments (callMoments (versioned "1") [holdingPlace]) unusedRoom =
      holdingRead := by
    rw [afterMoments_call, trace_singleton, frame_unusedRoom]
  have hsecond : plain.afterMoments (callMoments (versioned "1") [⟨"lib.js", 1, 0⟩]) holdingRead =
      mapOutlives := by
    rw [afterMoments_call, trace_singleton, frame_holdingRead]
  rw [renewal, afterMoments_append, afterMoments_append, hfirst, hsecond]
  rfl

/-- Then the tracer gets the new version of the first file. -/
lemma hasMapAt_renewal :
    plain.HasMapAt (versioned "1") holdingPlace (plain.afterMoments renewal unusedRoom)
      (.inline (mapData "two.ts")) := by
  rw [afterMoments_renewal]
  exact ⟨holding encodedTwo, rfl, mapOf?_holding (.inr ⟨rfl, rfl⟩) "b.js"⟩

/-- The new version of the file is traced by the map that is served, which the session has read, or
else by the map in it. -/
theorem renewed_traced :
    let served := (plain.cachedMap? (inlineKey "b.js") (plain.source (versioned "1") "b.js"
      (plain.afterMoments renewal unusedRoom)).2).1
    ∃ traced, (plain.trace (versioned "1") (some [holdingPlace])
        (plain.afterMoments renewal unusedRoom)).1 = .ok traced ∧
      traced[0]? = some (outcome holdingPlace
        (resolve? plain.contextLines holdingPlace (served.getD (mapTo "two.ts")) "b.js")) ∧
      ∀ old, served = some old → MadeIn plain unusedRoom renewal (inlineKey "b.js") old := by
  have hearlier : renewal ++ callMoments (versioned "1") ([holdingPlace].take 0) = renewal := rfl
  have htraced := trace_inlineMap plain 1 3600 threeFiles renewal (versioned "1") [holdingPlace] 0
    holdingPlace rfl (mapData "two.ts") (mapTo "two.ts")
  rw [hearlier] at htraced
  obtain ⟨traced, htrace, hframe, hserved, -⟩ :=
    htraced hasMapAt_renewal (decode?_mapData "b.js" (.inr rfl))
  exact ⟨traced, htrace, hframe, fun old hold => (hserved old hold).1⟩

/-- The new version of the file holds a map to the second source, and yet it is traced by the map to
the first, which the earlier version held. -/
theorem earlier_map_served :
    let s := plain.afterMoments renewal unusedRoom
    plain.HasMapAt (versioned "1") holdingPlace s (.inline (mapData "two.ts")) ∧
      decode? "b.js" (mapData "two.ts") = .ok (mapTo "two.ts") ∧
      resolve? plain.contextLines holdingPlace (mapTo "two.ts") "b.js" =
        .ok (firstPlaceOf "two.ts") ∧
      (plain.trace (versioned "1") (some [holdingPlace]) s).1 = .ok [firstPlaceOf "one.ts"] := by
  intro s
  have hserved : (plain.cachedMap? (inlineKey "b.js") (plain.source (versioned "1") "b.js"
      (plain.afterMoments renewal unusedRoom)).2).1 = some (mapTo "one.ts") := by
    rw [afterMoments_renewal]
    rfl
  have hframe := frame_of_inline hasMapAt_renewal (decode?_mapData "b.js" (.inr rfl))
  have hname : holdingPlace.fileName = "b.js" := rfl
  rw [hname, hserved, Option.getD_some] at hframe
  refine ⟨hasMapAt_renewal, decode?_mapData "b.js" (.inr rfl), resolve?_holdingPlace (.inr rfl), ?_⟩
  rw [trace_singleton, hframe, resolve?_holdingPlace (.inl rfl)]
  rfl

end Tracer

end Retrace
