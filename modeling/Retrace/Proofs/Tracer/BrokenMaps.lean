import Mathlib
import Retrace.Proofs.Cache.LeastRecent
import Retrace.Proofs.Tracer.InlineMaps
import Retrace.Proofs.Tracer.WriteBack

/-!
# Maps that could not be read

When what stands at the location of a map cannot be read, the frame fails, and the cache has nothing
under that location. So the next time the map is loaded anew, and the frame comes to what is loaded
then (`frame_after_broken`).

A store that works has the broken bytes, though. They were in it, or they were fetched and put into
it before anybody tried to read them. As long as it holds them they are loaded from it, and the
frame fails in the same way although a map that can be read could be fetched by now
(`mended_map_not_fetched`). The frame is traced by a new map once it is the store that holds this
map (`trace_after_brokenMap`).
-/

namespace Retrace

/-- A key that is not found has no entry afterwards. -/
lemma ExpiringMap.holds_ne_of_missed {α : Type} {since now : ℕ} {m : ExpiringMap α} {key : String}
    (h : (m.get? now key).1 = none) :
    (m.get? now key).2.Holds since fun other _ => other ≠ key := by
  rw [get?] at h ⊢
  cases he : m.entries.get? key with
  | none =>
    rintro ⟨other, e⟩ hmem - rfl
    exact Dictionary.get?_ne_none_of_mem hmem he
  | some e =>
    rw [he] at h
    dsimp only at h ⊢
    split at h
    · cases h
    · next hlive =>
      rw [if_neg hlive]
      exact fun p hmem _ => of_decide_eq_true (List.mem_filter.mp hmem).2

namespace Tracer

variable {σ : Type} {t : Tracer σ} {release : Release} {f : StackFrame} {s : State σ}
  {url : String} {e : SourceMap.Error} {store : StoreAccess σ}
  {objects : σ → String → Option Bytes}

/-! ### Frames whose maps are loaded -/

/-- What a frame comes to by what is loaded from the location of its map. -/
def byLoaded (window : ℕ) (f : StackFrame) (url : String) :
    Except Fetch.Error Bytes → Except Failure TracedFrame
  | .error e => .error (.fetch url e)
  | .ok data =>
    match decode? url data with
    | .error failure => .error failure
    | .ok map => resolve? window f map url

/-- What looking in the cache for the map of a frame, at a location, leaves. -/
def mapMissed (t : Tracer σ) (release : Release) (f : StackFrame) (url : String) (s : State σ) :
    State σ :=
  (t.cachedMap? url (t.source release f.fileName s).2).2

/-- A frame whose map the cache does not have comes to what is loaded. -/
lemma frame_of_missed (hplace : t.HasMapAt release f s (.external url))
    (hmissed : (t.cachedMap? url (t.source release f.fileName s).2).1 = none) :
    (t.frame release f s).1 =
      byLoaded t.contextLines f url (t.load release url (t.mapMissed release f url s)).1 := by
  obtain ⟨text, htext, hplace⟩ := hplace
  rw [mapMissed]
  rcases hsource : t.source release f.fileName s with ⟨result, s₁⟩
  rw [hsource] at htext hmissed
  obtain rfl : result = .ok text := htext
  rcases hcached : t.cachedMap? url s₁ with ⟨found, s₂⟩
  rw [hcached] at hmissed
  obtain rfl : found = none := hmissed
  rcases hload : t.load release url s₂ with ⟨_ | data, s₃⟩
  · exact congrArg Prod.fst
      (FrameCourse.noMap hsource hplace (.externalLost hcached hload)).frame_eq
  · dsimp only [byLoaded]
    cases hdecode : decode? url data with
    | error failure =>
      exact congrArg Prod.fst
        (FrameCourse.noMap hsource hplace (.externalBad hcached hload hdecode)).frame_eq
    | ok map =>
      exact congrArg Prod.fst
        (FrameCourse.resolved hsource hplace (.externalRead hcached hload hdecode)).frame_eq

/-! ### Frames whose maps could not be read -/

/-- Looking up places does not fail as reading maps does. -/
lemma resolve?_ne_decode {window : ℕ} {map : SourceMap} {base : String} :
    resolve? window f map base ≠ .error (.decode url e) := by
  intro h
  rw [resolve?] at h
  split at h <;> cases h

/-- When the map of a frame cannot be read, the cache did not have it, and it was loaded last. -/
lemma missed_of_broken (hplace : t.HasMapAt release f s (.external url))
    (hbroken : (t.frame release f s).1 = .error (.decode url e)) :
    (t.cachedMap? url (t.source release f.fileName s).2).1 = none ∧
      ∃ broken, decode? url broken = .error (.decode url e) ∧
        t.load release url (t.mapMissed release f url s) =
          (.ok broken, (t.frame release f s).2) := by
  obtain ⟨text, htext, hplace⟩ := hplace
  rw [mapMissed]
  have hcourse := frameCourse t release f s
  rw [hbroken] at hcourse
  generalize (t.frame release f s).2 = s' at hcourse ⊢
  generalize hresult : Except.error (Failure.decode url e) = result at hcourse
  have hat : ∀ {text' : Bytes} {place s₁}, t.source release f.fileName s = (.ok text', s₁) →
      mapOf? f.fileName text' = .ok place → place = .external url := by
    intro text' place s₁ hsource hplace'
    rw [hsource] at htext
    rw [Except.ok.inj htext, hplace] at hplace'
    exact (Except.ok.inj hplace').symm
  cases hcourse with
  | noFile hsource => cases hresult
  | noPlace hsource hplace' =>
    rw [hsource] at htext
    rw [Except.ok.inj htext, hplace] at hplace'
    cases hplace'
  | noMap hsource hplace' hmap =>
    obtain rfl := hat hsource hplace'
    obtain rfl := Except.error.inj hresult
    cases hmap with
    | externalBad hcached hload hdecode =>
      rw [hsource, hcached]
      exact ⟨rfl, _, hdecode, hload⟩
  | resolved => exact absurd hresult.symm resolve?_ne_decode

/-- The cache has nothing under the location of a map that could not be read. -/
lemma holds_maps_of_broken (hplace : t.HasMapAt release f s (.external url))
    (hbroken : (t.frame release f s).1 = .error (.decode url e)) :
    (t.frame release f s).2.cache.maps.Holds 0 fun key _ => key ≠ url := by
  obtain ⟨hmissed, broken, -, hload⟩ := missed_of_broken hplace hbroken
  exact holds_maps_of_load (ExpiringMap.holds_ne_of_missed hmissed) hload

/-- After a map could not be read, and no frame has read one under its location since, the frame
comes to what is loaded. -/
lemma frame_after_broken (hplace : t.HasMapAt release f s (.external url))
    (hbroken : (t.frame release f s).1 = .error (.decode url e)) {between : List (Moment σ)}
    (hmade : ∀ map, ¬ MadeIn t (t.frame release f s).2 between url map)
    (hplace' : t.HasMapAt release f (t.afterMoments between (t.frame release f s).2)
      (.external url)) :
    let next := t.afterMoments between (t.frame release f s).2
    (t.frame release f next).1 =
      byLoaded t.contextLines f url (t.load release url (t.mapMissed release f url next)).1 := by
  intro next
  refine frame_of_missed hplace' ?_
  have hmaps : (t.source release f.fileName next).2.cache.maps.Holds 0
      fun key map => key ≠ url ∨ MadeIn t (t.frame release f s).2 between key map := by
    rw [maps_source]
    exact holds_maps_moments (holds_maps_of_broken hplace hbroken) between
  by_contra hfound
  obtain ⟨map, hmap⟩ := Option.ne_none_iff_exists'.mp hfound
  rcases hmaps.of_get? (Nat.zero_le _) hmap with hne | hmade'
  · exact hne rfl
  · exact hmade map hmade'

/-! ### Broken maps in a store -/

section Stored

variable (shares : t.services.Shares store objects)

include shares

/-- What is loaded is in the store. -/
lemma objects_of_load {data : Bytes} {s' : State σ}
    (hload : t.load release url s = (.ok data, s')) :
    objects s'.world (release.key url).text = some data := by
  obtain ⟨hdata, rfl⟩ := Prod.mk.inj hload
  exact shares.working.objects_load hdata

/-- What a store holds a frame loads from it, as getting the generated file takes nothing out of the
store. -/
lemma load_of_objects {data : Bytes}
    (hheld : objects s.world (release.key url).text = some data) :
    (t.load release url (t.mapMissed release f url s)).1 = .ok data := by
  have hgrows := (path_source t release f.fileName s).grows shares
  have hafter : objects (t.mapMissed release f url s).world (release.key url).text =
      some data := by
    rw [← hgrows.holds_iff.mpr (.inl hheld)]
    exact congrFun (shares.objects_now _) _
  exact congrArg Prod.fst (shares.working.load_of_held hafter)

/-- What a store holds it goes on holding in a session, unless a change takes it out. -/
lemma objects_afterMoments {text : String} {data : Bytes} {moments : List (Moment σ)}
    (hchanges : ∀ change, .change change ∈ moments → ∀ w, objects w text = some data →
      objects (change w) text = some data)
    (hheld : objects s.world text = some data) :
    objects (t.afterMoments moments s).world text = some data := by
  induction moments generalizing s with
  | nil => exact hheld
  | cons moment rest ih =>
    refine ih (fun change hmem => hchanges change (List.mem_cons_of_mem _ hmem)) ?_
    cases moment with
    | frame release f =>
      exact ((path_frame t release f s).grows shares).holds_iff.mpr (.inl hheld)
    | change change => exact hchanges change List.mem_cons_self s.world hheld

end Stored

/-- **Broken maps stay in the store.** A tracer has a store that works, and a frame fails as its map
cannot be read. Then the store holds the broken bytes. Let the frame be traced again, after anything
but that a map was read under the same location, and let its generated file still name this
location. If nothing has taken the broken bytes out of the store, the frame fails as before,
whatever could be fetched. If the store holds a map that can be read, the frame is traced by this
map. In any case it comes to what is loaded then. -/
theorem trace_after_brokenMap (shares : t.services.Shares store objects)
    (hplace : t.HasMapAt release f s (.external url))
    (hbroken : (t.frame release f s).1 = .error (.decode url e)) (between : List (Moment σ)) :
    let left := (t.frame release f s).2
    let next := t.afterMoments between left
    (∀ map, ¬ MadeIn t left between url map) → t.HasMapAt release f next (.external url) →
      (t.trace release (some [f]) next).1 = .ok [outcome f (byLoaded t.contextLines f url
        (t.load release url (t.mapMissed release f url next)).1)] ∧
      (∃ broken, decode? url broken = .error (.decode url e) ∧
        objects left.world (release.key url).text = some broken ∧
        ((∀ change, .change change ∈ between → ∀ w,
            objects w (release.key url).text = some broken →
              objects (change w) (release.key url).text = some broken) →
          (t.trace release (some [f]) next).1 =
            .ok [.failed f ("error decoding source map: " ++ url ++ ": " ++ e.message)])) ∧
      ∀ data map, objects next.world (release.key url).text = some data →
        decode? url data = .ok map →
          (t.trace release (some [f]) next).1 =
            .ok [outcome f (resolve? t.contextLines f map url)] := by
  intro left next hmade hplace'
  have hframe := frame_after_broken hplace hbroken hmade hplace'
  have htrace : (t.trace release (some [f]) next).1 = .ok [outcome f (byLoaded t.contextLines f url
      (t.load release url (t.mapMissed release f url next)).1)] := by
    rw [trace_singleton, ← hframe]
  obtain ⟨-, broken, hdecode, hload⟩ := missed_of_broken hplace hbroken
  have hstored := objects_of_load shares hload
  refine ⟨htrace, ⟨broken, hdecode, hstored, fun hchanges => ?_⟩, fun data map hheld hmap => ?_⟩
  · have hheld := objects_afterMoments shares hchanges hstored
    rw [htrace, load_of_objects shares hheld, byLoaded, hdecode]
    rfl
  · rw [htrace, load_of_objects shares hheld, byLoaded, hmap]

/-! ### A map that is empty at first -/

/-- A world with a file whose map is empty. -/
def emptyMap : World :=
  { World.make ⟨fun _ => .error .missing⟩ .down with
    artifacts := [("app.js", .ok script), ("app.js.map", .ok [])] }

/-- What is wrong with an empty map. -/
def endsTooEarly : SourceMap.Error :=
  .json ⟨.eofInValue, 1, 0⟩

/-- A tracer with a store, before any call. -/
def unusedEmpty : State World :=
  ⟨.make 256 3600, emptyMap⟩

/-- What the tracer has changed after the file: the store holds the file and the empty map, the
cache only the file. -/
def emptyMapRead : State World :=
  ⟨⟨⟨256, 3600000000000, [("app.js", ⟨script, 1, 3600000000001⟩)], false⟩,
    .empty 256 3600000000000⟩,
    { emptyMap with
      store := ⟨[("1/1/disk/rel/app.js", script), ("1/1/disk/rel/app.js.map", [])]⟩
      clock := 3
      asked := ["app.js", "app.js.map"] }⟩

/-- The world once a map that can be read is fetched. -/
def mended (w : World) : World :=
  { w with artifacts := w.artifacts.put "app.js.map" (.ok (mapData "one.ts")) }

/-- The world once a map that can be read is in the store. -/
def restocked (w : World) : World :=
  { w with store := w.store.put ((versioned "1").key "app.js.map") (mapData "one.ts") }

/-- An empty map cannot be read. -/
lemma decode?_empty : decode? "app.js.map" [] = .error (.decode "app.js.map" endsTooEarly) := by
  have hparse : SourceMap.parse? [] = .error endsTooEarly := by cbv
  rw [decode?, hparse]

/-- The file names its map. -/
lemma hasMapAt_unusedEmpty :
    sharing.HasMapAt (versioned "1") firstPlace unusedEmpty (.external "app.js.map") :=
  ⟨script, rfl, mapOf?_script⟩

/-- The file is not traced, as its map is empty. -/
lemma frame_unusedEmpty :
    sharing.frame (versioned "1") firstPlace unusedEmpty =
      (.error (.decode "app.js.map" endsTooEarly), emptyMapRead) := by
  obtain ⟨s₁, hsource, s₂, hcached, hload⟩ :
      ∃ s₁, sharing.source (versioned "1") "app.js" unusedEmpty = (.ok script, s₁) ∧
        ∃ s₂, sharing.cachedMap? "app.js.map" s₁ = (none, s₂) ∧
          sharing.load (versioned "1") "app.js.map" s₂ = (.ok [], emptyMapRead) :=
    ⟨_, rfl, _, rfl, rfl⟩
  exact (FrameCourse.noMap (f := firstPlace) hsource mapOf?_script
    (.externalBad hcached hload decode?_empty)).frame_eq

/-- After the map was empty the file fails again if another map could be fetched by now, and is
traced by that map once the store holds it. -/
theorem emptyMap_mended_or_restocked :
    (sharing.frame (versioned "1") firstPlace unusedEmpty).1 =
        .error (.decode "app.js.map" endsTooEarly) ∧
      (sharing.trace (versioned "1") (some [firstPlace])
          ⟨emptyMapRead.cache, mended emptyMapRead.world⟩).1 =
        .ok [.failed firstPlace ("error decoding source map: app.js.map: " ++
          endsTooEarly.message)] ∧
      (sharing.trace (versioned "1") (some [firstPlace])
          ⟨emptyMapRead.cache, restocked emptyMapRead.world⟩).1 =
        .ok [firstPlaceOf "one.ts"] := by
  have working := World.working_services .memory Settings.default.maxArtifactBytes
  have shares : sharing.services.Shares (World.storeAccess false false) World.storeObjects :=
    ⟨working.store_eq, working.works, working.objects_fetch, working.objects_now⟩
  have hbroken := congrArg Prod.fst frame_unusedEmpty
  have hleft := congrArg Prod.snd frame_unusedEmpty
  -- a change of the world is no frame that makes a map
  have hmade : ∀ (change : World → World) map,
      ¬ MadeIn sharing emptyMapRead [.change change] "app.js.map" map := by
    rintro change map ⟨before, release, f, later, heq, -⟩
    have hmem : Moment.frame release f ∈ [Moment.change change] := by
      rw [heq]
      simp
    simp at hmem
  have hafter := fun change => trace_after_brokenMap shares hasMapAt_unusedEmpty hbroken
    [.change change]
  simp only [hleft] at hafter
  obtain ⟨-, ⟨broken, -, -, hfails⟩, -⟩ :=
    hafter mended (hmade mended) ⟨script, rfl, mapOf?_script⟩
  obtain ⟨-, -, htraced⟩ :=
    hafter restocked (hmade restocked) ⟨script, rfl, mapOf?_script⟩
  refine ⟨hbroken, ?_, ?_⟩
  · refine hfails fun change hmem w hheld => ?_
    obtain rfl : change = mended := by simpa using hmem
    exact hheld
  · obtain ⟨hparse, hurl⟩ := parse?_mapData (.inl rfl)
    have hheld : World.storeObjects (restocked emptyMapRead.world)
        ((versioned "1").key "app.js.map").text = some (mapData "one.ts") :=
      Dictionary.get?_put_self _ _ _
    have hresolve : resolve? sharing.contextLines firstPlace (mapTo "one.ts") "app.js.map" =
        .ok (firstPlaceOf "one.ts") := resolve?_mapTo "app.js" hurl (by cbv)
    have hresult := htraced _ _ hheld (decode?_mapData "app.js.map" (.inl rfl))
    rw [hresolve] at hresult
    exact hresult

/-- A map that can be read is fetched by now, and nothing else has changed since the map was empty.
And yet the file fails again, as the store still holds the empty map. -/
theorem mended_map_not_fetched :
    let left := (sharing.frame (versioned "1") firstPlace unusedEmpty).2
    let next : State World := ⟨left.cache, mended left.world⟩
    sharing.HasMapAt (versioned "1") firstPlace unusedEmpty (.external "app.js.map") ∧
      (sharing.frame (versioned "1") firstPlace unusedEmpty).1 =
        .error (.decode "app.js.map" endsTooEarly) ∧
      (sharing.services.fetch "app.js.map" next.world).1 = .ok (mapData "one.ts") ∧
      decode? "app.js.map" (mapData "one.ts") = .ok (mapTo "one.ts") ∧
      resolve? sharing.contextLines firstPlace (mapTo "one.ts") "app.js.map" =
        .ok (firstPlaceOf "one.ts") ∧
      (sharing.frame (versioned "1") firstPlace next).1 =
        .error (.decode "app.js.map" endsTooEarly) := by
  intro left next
  have hnext : next = ⟨emptyMapRead.cache, mended emptyMapRead.world⟩ := by
    simp only [next, left, frame_unusedEmpty]
  obtain ⟨hparse, hurl⟩ := parse?_mapData (.inl rfl)
  have hagain : (sharing.frame (versioned "1") firstPlace next).1 =
      .error (.decode "app.js.map" endsTooEarly) := by
    obtain ⟨s₁, hsource, s₂, hcached, s₃, hload⟩ :
        ∃ s₁, sharing.source (versioned "1") "app.js"
            ⟨emptyMapRead.cache, mended emptyMapRead.world⟩ = (.ok script, s₁) ∧
          ∃ s₂, sharing.cachedMap? "app.js.map" s₁ = (none, s₂) ∧
            ∃ s₃, sharing.load (versioned "1") "app.js.map" s₂ = (.ok [], s₃) :=
      ⟨_, rfl, _, rfl, _, rfl⟩
    rw [hnext]
    exact congrArg Prod.fst (FrameCourse.noMap (f := firstPlace) hsource mapOf?_script
      (.externalBad hcached hload decode?_empty)).frame_eq
  refine ⟨hasMapAt_unusedEmpty, congrArg Prod.fst frame_unusedEmpty, ?_,
    decode?_mapData "app.js.map" (.inl rfl), resolve?_mapTo "app.js" hurl (by cbv), hagain⟩
  rw [hnext]
  rfl

end Tracer

end Retrace
