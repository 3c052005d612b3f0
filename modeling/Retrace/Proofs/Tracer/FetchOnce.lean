import Mathlib
import Retrace.Proofs.Cache.Lasting
import Retrace.Proofs.Tracer.InlineMaps
import Retrace.Proofs.Tracer.StoreTransparency

/-!
# Artifacts are fetched once

A tracer without a store asks the fetcher for what its cache does not have. `sessionAsks` lists what
it asks for in a session, either as a generated file or as a map, with the answers. As long as the
cache has room for all the keys that are used and nothing in it expires, it loses nothing, and what
has come and could be used is in it. So nothing that was served is asked for again in the same role
(`asks_once`), whatever the fetcher answers and however the world changes in between.

The argument is about single steps. A step that has `AsksOnce` asks only for what the cache does not
have, leaves in the cache what it was served, and takes nothing out; such steps can be done one
after the other (`AsksOnce.append`). That the steps of a tracer have it rests on `State.Lasts`: both
maps of the cache are `Lasting` for the keys of the session.
-/

namespace Retrace

variable {σ : Type}

/-- A clock that does not run backwards, neither when it is read nor when something is fetched. -/
structure Services.Forward (services : Services σ) (time : σ → ℕ) : Prop where
  time_le_now (w : σ) : time w ≤ (services.now w).1
  now_le (w : σ) : (services.now w).1 ≤ time (services.now w).2
  time_fetch (location : String) (w : σ) : time w ≤ time (services.fetch location w).2

namespace Tracer

variable {t : Tracer σ} {release : Release} {f : StackFrame} {s s' s'' : State σ} {time : σ → ℕ}

/-! ### What is asked for -/

/-- What an artifact is asked for as. -/
inductive Role
  | file
  | map

/-- What is asked of the fetcher, with the answer. -/
structure Ask where
  role : Role
  location : String
  answer : Except Fetch.Error Bytes

/-- The answer can be used: a generated file, or a map that can be read. -/
inductive Ask.Served : Ask → Prop
  | file {location : String} {data : Bytes} : Served ⟨.file, location, .ok data⟩
  | map {location : String} {data : Bytes} {map : SourceMap} (h : decode? location data = .ok map) :
      Served ⟨.map, location, .ok data⟩

/-- What cannot be fetched is not served. -/
lemma Ask.not_served_error {role : Role} {location : String} {e : Fetch.Error} :
    ¬ Ask.Served ⟨role, location, .error e⟩ := by
  intro h
  cases h

/-- A map that cannot be read is not served. -/
lemma Ask.not_served_of_decode {location : String} {data : Bytes} {failure : Failure}
    (hdecode : decode? location data = .error failure) :
    ¬ Ask.Served ⟨.map, location, .ok data⟩ := by
  intro h
  cases h with
  | map hread =>
    rw [hdecode] at hread
    cases hread

/-- The same is asked for in the same role. -/
def Ask.Same (a b : Ask) : Prop :=
  a.role = b.role ∧ a.location = b.location

/-- What a load asks of the fetcher, for an artifact in a role. -/
def Load.ask? (services : Services σ) (release : Release) (role : Role) (load : Load σ) :
    Option Ask :=
  (load.fetch? services release).map fun p => ⟨role, p.1, p.2⟩

/-- What is asked of the fetcher for a frame. -/
def frameAsks (t : Tracer σ) (release : Release) (f : StackFrame) (s : State σ) : List Ask :=
  (t.sourceLoads f.fileName s).filterMap (Load.ask? t.services release .file) ++
    match t.source release f.fileName s with
    | (.error _, _) => []
    | (.ok text, s) =>
      match mapOf? f.fileName text with
      | .error _ => []
      | .ok place => (t.mapLoads place s).filterMap (Load.ask? t.services release .map)

/-- What is asked of the fetcher in a moment of a session. -/
def momentAsks (t : Tracer σ) (s : State σ) : Moment σ → List Ask
  | .frame release f => t.frameAsks release f s
  | .change _ => []

/-- What is asked of the fetcher in a session. -/
def sessionAsks (t : Tracer σ) : List (Moment σ) → State σ → List Ask
  | [], _ => []
  | moment :: rest, s => t.momentAsks s moment ++ sessionAsks t rest (t.afterMoment s moment)

/-- The asks for a frame are what its loads ask of the fetcher. -/
lemma map_frameAsks (t : Tracer σ) (release : Release) (f : StackFrame) (s : State σ) :
    (t.frameAsks release f s).map (fun a => (a.location, a.answer)) =
      (t.frameLoads release f s).filterMap (Load.fetch? t.services release) := by
  have hforget : ∀ (role : Role) (loads : List (Load σ)),
      (loads.filterMap (Load.ask? t.services release role)).map (fun a => (a.location, a.answer)) =
        loads.filterMap (Load.fetch? t.services release) := by
    intro role loads
    rw [List.map_filterMap]
    refine List.filterMap_congr fun load _ => ?_
    rw [Load.ask?, Option.map_map]
    cases load.fetch? t.services release <;> rfl
  rw [frameAsks, frameLoads, List.map_append, List.filterMap_append, hforget]
  rcases t.source release f.fileName s with ⟨_ | text, s₁⟩
  · rfl
  · dsimp only
    cases mapOf? f.fileName text with
    | error failure => rfl
    | ok place => exact congrArg _ (hforget .map _)

/-- A world that keeps a log has in it just what is asked for in a session. -/
lemma log_afterMoments {α : Type} {log : σ → List α}
    {entry : String → Except Fetch.Error Bytes → α} (logs : t.services.Logs log entry)
    {session : List (Moment σ)}
    (hchanges : ∀ change, .change change ∈ session → ∀ w, log (change w) = log w) (s : State σ) :
    log (t.afterMoments session s).world =
      log s.world ++ (t.sessionAsks session s).map fun a => entry a.location a.answer := by
  induction session generalizing s with
  | nil => exact (List.append_nil _).symm
  | cons moment rest ih =>
    have hrest := ih (fun change hmem => hchanges change (List.mem_cons_of_mem _ hmem))
      (t.afterMoment s moment)
    have hmoment : log (t.afterMoment s moment).world =
        log s.world ++ (t.momentAsks s moment).map fun a => entry a.location a.answer := by
      cases moment with
      | change change =>
        exact (hchanges change List.mem_cons_self s.world).trans (List.append_nil _).symm
      | frame release f =>
        have hlog := (path_frame t release f s).log_eq logs
        rw [← map_frameAsks, List.map_map] at hlog
        exact hlog
    rw [sessionAsks, List.map_append, ← List.append_assoc, ← hmoment]
    exact hrest

/-! ### The keys that are used -/

/-- The generated file of a moment of a session. -/
def Moment.fileName? : Moment σ → Option String
  | .frame _ f => some f.fileName
  | .change _ => none

/-- The generated files of a session. -/
def sessionFiles (session : List (Moment σ)) : List String :=
  session.filterMap Moment.fileName?

/-- The key under which the map of a frame is looked for, if its generated file says where the map
is. -/
def frameKey? (t : Tracer σ) (release : Release) (f : StackFrame) (s : State σ) : Option String :=
  match t.source release f.fileName s with
  | (.error _, _) => none
  | (.ok text, _) =>
    match mapOf? f.fileName text with
    | .error _ => none
    | .ok place => some (mapKey f.fileName place)

/-- The key that is used in a moment of a session. -/
def momentKey? (t : Tracer σ) (s : State σ) : Moment σ → Option String
  | .frame release f => t.frameKey? release f s
  | .change _ => none

/-- The keys of the maps that are used in a session. -/
def sessionKeys (t : Tracer σ) : List (Moment σ) → State σ → List String
  | [], _ => []
  | moment :: rest, s =>
    (t.momentKey? s moment).toList ++ sessionKeys t rest (t.afterMoment s moment)

/-! ### Steps that ask once -/

/-- Whether the cache has an entry for what is asked for in a role. -/
def State.has (s : State σ) : Role → String → Bool
  | .file, location => s.cache.sources.entries.has location
  | .map, key => s.cache.maps.entries.has key

/-- A step that asks only for what the cache does not have, leaves there what it is served, takes
nothing out, and asks for nothing again once it is served. -/
structure AsksOnce (s : State σ) (asks : List Ask) (s' : State σ) : Prop where
  fresh : ∀ a ∈ asks, s.has a.role a.location = false
  served : ∀ a ∈ asks, a.Served → s'.has a.role a.location = true
  kept : ∀ role location, s.has role location = true → s'.has role location = true
  once : asks.Pairwise fun a b => a.Served → ¬ a.Same b

/-- A step that asks for nothing. -/
lemma AsksOnce.nothing
    (hkept : ∀ role location, s.has role location = true → s'.has role location = true) :
    AsksOnce s [] s' :=
  ⟨List.forall_mem_nil _, List.forall_mem_nil _, hkept, .nil⟩

/-- A step that asks for one artifact. -/
lemma AsksOnce.single {a : Ask} (hfresh : s.has a.role a.location = false)
    (hserved : a.Served → s'.has a.role a.location = true)
    (hkept : ∀ role location, s.has role location = true → s'.has role location = true) :
    AsksOnce s [a] s' :=
  ⟨List.forall_mem_singleton.mpr hfresh, List.forall_mem_singleton.mpr hserved, hkept,
    List.pairwise_singleton _ _⟩

/-- Steps one after the other: the second does not ask for what the first was served, as that is in
the cache in between. -/
lemma AsksOnce.append {asks asks' : List Ask} (h : AsksOnce s asks s')
    (h' : AsksOnce s' asks' s'') : AsksOnce s (asks ++ asks') s'' where
  fresh := by
    intro a ha
    rcases List.mem_append.mp ha with ha | ha
    · exact h.fresh a ha
    · have hnot := h'.fresh a ha
      by_contra hhas
      rw [h.kept _ _ (Bool.eq_true_of_not_eq_false hhas)] at hnot
      cases hnot
  served := by
    intro a ha hserved
    rcases List.mem_append.mp ha with ha | ha
    · exact h'.kept _ _ (h.served a ha hserved)
    · exact h'.served a ha hserved
  kept := fun role location hhas => h'.kept role location (h.kept role location hhas)
  once := by
    refine List.pairwise_append.mpr ⟨h.once, h'.once, fun a ha b hb hserved hsame => ?_⟩
    have hhas := h.served a ha hserved
    rw [hsame.1, hsame.2, h'.fresh b hb] at hhas
    cases hhas

/-! ### The steps of a tracer -/

section Steps

variable {files keys : Finset String} {start stop : ℕ} {location key : String}

/-- Both maps of the cache last: for some generated files and some keys of maps, and for readings of
the clock from `start` to before `stop`. -/
structure State.Lasts (files keys : Finset String) (start stop : ℕ) (s : State σ) : Prop where
  sources : s.cache.sources.Lasting files start stop
  maps : s.cache.maps.Lasting keys start stop

/-- Along a path the time does not run backwards. -/
lemma Path.time_le {services : Services σ} {w w' : σ} {loads : List (Load σ)}
    (forward : services.Forward time) (hstore : services.store = none)
    (h : Path services release w loads w') : time w ≤ time w' := by
  have keeps : services.Keeps fun w' => time w ≤ time w' :=
    .of_store_eq_none hstore fun location _ hle => hle.trans (forward.time_fetch location _)
  have hnow : ∀ w', time w ≤ time w' → time w ≤ time (services.now w').2 := fun w' hle =>
    hle.trans ((forward.time_le_now w').trans (forward.now_le w'))
  exact (h.forall_world keeps hnow le_rfl).2

/-- What is put into a map is put in no earlier than the time is. -/
lemma Stamped.time_le {α : Type} {m : ExpiringMap α} {w w' : σ} {roomAt now : ℕ}
    (h : t.Stamped m key w roomAt now w') (forward : t.services.Forward time) : time w ≤ now := by
  cases h with
  | closed => exact forward.time_le_now w
  | once => exact forward.time_le_now w
  | twice =>
    exact ((forward.time_le_now w).trans (forward.now_le w)).trans (forward.time_le_now _)

/-- Without a store a load asks the fetcher. -/
lemma ask?_of_load (hstore : t.services.store = none) {result : Except Fetch.Error Bytes}
    (hload : t.load release location s = (result, s')) (role : Role) :
    Load.ask? t.services release role ⟨location, s.world⟩ = some ⟨role, location, result⟩ := by
  have hfetch : (t.services.fetch location s.world).1 = result := by
    rw [← Services.load_of_store_eq_none hstore release]
    exact congrArg Prod.fst hload
  simp only [Load.ask?, Load.fetch?, Services.stored, hstore, Option.map_some, hfetch]

/-- Loading leaves the cache alone. -/
lemma cache_of_load {result : Except Fetch.Error Bytes}
    (hload : t.load release location s = (result, s')) : s'.cache = s.cache := by
  obtain ⟨-, rfl⟩ := Prod.mk.inj hload
  rfl

/-- What a state has depends on its cache. -/
lemma State.has_of_cache_eq (h : s'.cache = s.cache) (role : Role) (location : String) :
    s'.has role location = s.has role location := by
  cases role with
  | file => rw [has, has, h]
  | map => rw [has, has, h]

/-- Loading what the cache does not have, and then keeping it if it is served. -/
lemma AsksOnce.load {role : Role} {result : Except Fetch.Error Bytes}
    (hfresh : s.has role location = false) (hload : t.load release location s = (result, s'))
    (hkeep : AsksOnce s' [] s'')
    (hserved : Ask.Served ⟨role, location, result⟩ → s''.has role location = true) :
    AsksOnce s [⟨role, location, result⟩] s'' :=
  .single hfresh hserved fun other key hhas =>
    hkeep.kept other key ((State.has_of_cache_eq (cache_of_load hload) other key).trans hhas)

namespace State.Lasts

/-- A state with the cache of one that lasts. -/
lemma of_cache_eq (h : s.Lasts files keys start stop) (hcache : s'.cache = s.cache) :
    s'.Lasts files keys start stop := by
  constructor
  · rw [hcache]
    exact h.sources
  · rw [hcache]
    exact h.maps

/-- Loading what the cache does not have, and not being served. -/
lemma unserved (h : s.Lasts files keys start stop) {role : Role}
    {result : Except Fetch.Error Bytes} (hfresh : s.has role location = false)
    (hload : t.load release location s = (result, s'))
    (hnot : ¬ Ask.Served ⟨role, location, result⟩) :
    s'.Lasts files keys start stop ∧ AsksOnce s [⟨role, location, result⟩] s' :=
  ⟨h.of_cache_eq (cache_of_load hload),
    .load hfresh hload (.nothing fun _ _ => id) fun hserved => absurd hserved hnot⟩

section Tiers

variable (forward : t.services.Forward time)

include forward

/-- Looking for content finds what the cache has, and leaves it all there. -/
lemma cachedSource? (h : s.Lasts files keys start stop) {found : Option Bytes}
    (hcached : t.cachedSource? location s = (found, s')) (hend : time s'.world < stop) :
    found.isSome = s'.has .file location ∧ s'.Lasts files keys start stop ∧ AsksOnce s [] s' := by
  obtain ⟨rfl, rfl⟩ := Prod.mk.inj hcached
  obtain ⟨hfound, hlasting, hsame⟩ :=
    h.sources.get? ((forward.now_le s.world).trans_lt hend) location
  refine ⟨hfound.trans (hsame location).symm, ⟨hlasting, h.maps⟩, .nothing ?_⟩
  intro role other hhas
  cases role with
  | file => exact (hsame other).trans hhas
  | map => exact hhas

/-- Looking for a map finds what the cache has, and leaves it all there. -/
lemma cachedMap? (h : s.Lasts files keys start stop) {found : Option SourceMap}
    (hcached : t.cachedMap? key s = (found, s')) (hend : time s'.world < stop) :
    found.isSome = s'.has .map key ∧ s'.Lasts files keys start stop ∧ AsksOnce s [] s' := by
  obtain ⟨rfl, rfl⟩ := Prod.mk.inj hcached
  obtain ⟨hfound, hlasting, hsame⟩ := h.maps.get? ((forward.now_le s.world).trans_lt hend) key
  refine ⟨hfound.trans (hsame key).symm, ⟨h.sources, hlasting⟩, .nothing ?_⟩
  intro role other hhas
  cases role with
  | file => exact hhas
  | map => exact (hsame other).trans hhas

/-- Keeping content takes nothing out. -/
lemma keepSource (h : s.Lasts files keys start stop) (hstart : start ≤ time s.world)
    (hfile : location ∈ files) (data : Bytes) :
    (t.keepSource location data s).has .file location = true ∧
      (t.keepSource location data s).Lasts files keys start stop ∧
      AsksOnce s [] (t.keepSource location data s) := by
  obtain ⟨hlasting, hhas⟩ :=
    h.sources.insert _ (hstart.trans ((t.stamped _ _ _).time_le forward)) hfile data
  refine ⟨(hhas location).trans (by simp), ⟨hlasting, h.maps⟩, .nothing ?_⟩
  intro role other hother
  cases role with
  | file => exact (hhas other).trans (Bool.or_eq_true_iff.mpr (.inr hother))
  | map => exact hother

/-- Keeping a map takes nothing out. -/
lemma keepMap (h : s.Lasts files keys start stop) (hstart : start ≤ time s.world)
    (hkey : key ∈ keys) (map : SourceMap) :
    (t.keepMap key map s).has .map key = true ∧
      (t.keepMap key map s).Lasts files keys start stop ∧
      AsksOnce s [] (t.keepMap key map s) := by
  obtain ⟨hlasting, hhas⟩ :=
    h.maps.insert _ (hstart.trans ((t.stamped _ _ _).time_le forward)) hkey map
  refine ⟨(hhas key).trans (by simp), ⟨h.sources, hlasting⟩, .nothing ?_⟩
  intro role other hother
  cases role with
  | file => exact hother
  | map => exact (hhas other).trans (Bool.or_eq_true_iff.mpr (.inr hother))

end Tiers

section Parts

variable (forward : t.services.Forward time) (hstore : t.services.store = none)

include forward hstore

/-- Getting a generated file asks once. -/
lemma source (h : s.Lasts files keys start stop) (hstart : start ≤ time s.world)
    (hfile : location ∈ files) (hend : time (t.source release location s).2.world < stop) :
    (t.source release location s).2.Lasts files keys start stop ∧
      AsksOnce s ((t.sourceLoads location s).filterMap (Load.ask? t.services release .file))
        (t.source release location s).2 := by
  have hcourse := sourceCourse t release location s
  generalize (t.source release location s).1 = result at hcourse
  generalize (t.source release location s).2 = s' at hcourse hend ⊢
  rw [sourceLoads]
  cases hcourse with
  | hit hcached =>
    rw [hcached]
    exact (h.cachedSource? forward hcached hend).2
  | lost hcached hload =>
    have htime := (path_of_load hload).time_le forward hstore
    obtain ⟨hnone, hlasts, hlook⟩ := h.cachedSource? forward hcached (htime.trans_lt hend)
    rw [hcached, List.filterMap_cons_some (ask?_of_load hstore hload .file)]
    obtain ⟨hlasts, hask⟩ := hlasts.unserved hnone.symm hload Ask.not_served_error
    exact ⟨hlasts, hlook.append hask⟩
  | @loaded data s₁ s₂ hcached hload =>
    have hread := (path_of_cachedSource? release hcached).time_le forward hstore
    have htime := (path_of_load hload).time_le forward hstore
    have hkeep := ((t.stamped s₂.cache.sources location s₂.world).path release).time_le forward hstore
    obtain ⟨hnone, hlasts, hlook⟩ :=
      h.cachedSource? forward hcached ((htime.trans hkeep).trans_lt hend)
    obtain ⟨hhas, hlasts, hkept⟩ := (hlasts.of_cache_eq (cache_of_load hload)).keepSource forward
      (hstart.trans (hread.trans htime)) hfile data
    rw [hcached, List.filterMap_cons_some (ask?_of_load hstore hload .file)]
    exact ⟨hlasts, hlook.append (.load hnone.symm hload hkept fun _ => hhas)⟩

/-- Getting a map asks once. -/
lemma map (h : s.Lasts files keys start stop) (hstart : start ≤ time s.world)
    {place : MapLocation} (hkey : mapKey location place ∈ keys)
    {found : Except Failure SourceMap} (hmap : MapCourse t release location s place found s')
    (hend : time s'.world < stop) :
    s'.Lasts files keys start stop ∧
      AsksOnce s ((t.mapLoads place s).filterMap (Load.ask? t.services release .map)) s' := by
  cases hmap with
  | @hit place map _ hcached =>
    have hloads : t.mapLoads place s = [] := by
      cases place with
      | inline data => rfl
      | external url => rw [mapLoads, show t.cachedMap? url s = _ from hcached]
    rw [hloads]
    exact (h.cachedMap? forward hcached hend).2
  | inlineBad hcached => exact (h.cachedMap? forward hcached hend).2
  | @inlineRead data map s₁ hcached =>
    have hread := (path_of_cachedMap? release hcached).time_le forward hstore
    have hkeep := ((t.stamped s₁.cache.maps (inlineKey location) s₁.world).path release).time_le
      forward hstore
    obtain ⟨-, hlasts, hlook⟩ := h.cachedMap? forward hcached (hkeep.trans_lt hend)
    obtain ⟨-, hlasts, hkept⟩ := hlasts.keepMap forward (hstart.trans hread) hkey map
    exact ⟨hlasts, hlook.append hkept⟩
  | externalLost hcached hload =>
    have htime := (path_of_load hload).time_le forward hstore
    obtain ⟨hnone, hlasts, hlook⟩ := h.cachedMap? forward hcached (htime.trans_lt hend)
    rw [mapLoads, hcached, List.filterMap_cons_some (ask?_of_load hstore hload .map)]
    obtain ⟨hlasts, hask⟩ := hlasts.unserved hnone.symm hload Ask.not_served_error
    exact ⟨hlasts, hlook.append hask⟩
  | externalBad hcached hload hdecode =>
    have htime := (path_of_load hload).time_le forward hstore
    obtain ⟨hnone, hlasts, hlook⟩ := h.cachedMap? forward hcached (htime.trans_lt hend)
    rw [mapLoads, hcached, List.filterMap_cons_some (ask?_of_load hstore hload .map)]
    obtain ⟨hlasts, hask⟩ :=
      hlasts.unserved hnone.symm hload (Ask.not_served_of_decode hdecode)
    exact ⟨hlasts, hlook.append hask⟩
  | @externalRead url data map s₁ s₂ hcached hload hdecode =>
    have hread := (path_of_cachedMap? release hcached).time_le forward hstore
    have htime := (path_of_load hload).time_le forward hstore
    have hkeep := ((t.stamped s₂.cache.maps url s₂.world).path release).time_le forward hstore
    obtain ⟨hnone, hlasts, hlook⟩ :=
      h.cachedMap? forward hcached ((htime.trans hkeep).trans_lt hend)
    obtain ⟨hhas, hlasts, hkept⟩ := (hlasts.of_cache_eq (cache_of_load hload)).keepMap forward
      (hstart.trans (hread.trans htime)) hkey map
    rw [mapLoads, hcached, List.filterMap_cons_some (ask?_of_load hstore hload .map)]
    exact ⟨hlasts, hlook.append (.load hnone.symm hload hkept fun _ => hhas)⟩

/-- Tracing a frame asks once. -/
lemma frame (h : s.Lasts files keys start stop) (hstart : start ≤ time s.world)
    (hfile : f.fileName ∈ files) (hkey : ∀ key ∈ t.frameKey? release f s, key ∈ keys)
    (hend : time (t.frame release f s).2.world < stop) :
    (t.frame release f s).2.Lasts files keys start stop ∧
      AsksOnce s (t.frameAsks release f s) (t.frame release f s).2 := by
  have hpath := path_source t release f.fileName s
  have hsource : time (t.source release f.fileName s).2.world < stop →
      (t.source release f.fileName s).2.Lasts files keys start stop ∧ AsksOnce s _ _ :=
    h.source forward hstore hstart hfile
  have hcourse := frameCourse t release f s
  generalize (t.frame release f s).1 = result at hcourse
  generalize (t.frame release f s).2 = s' at hcourse hend ⊢
  -- the frame is over once its file is not there, or does not say where the map is
  have hmapped : ∀ {text place found s₁}, t.source release f.fileName s = (.ok text, s₁) →
      mapOf? f.fileName text = .ok place →
      MapCourse t release f.fileName s₁ place found s' →
      s'.Lasts files keys start stop ∧ AsksOnce s (t.frameAsks release f s) s' := by
    intro text place found s₁ hgot hplace hmap
    rw [hgot] at hsource hpath
    rw [frameKey?, hgot] at hkey
    dsimp only at hkey
    rw [hplace] at hkey
    have htime := hmap.path.time_le forward hstore
    obtain ⟨hlasts, hfirst⟩ := hsource (htime.trans_lt hend)
    obtain ⟨hlasts, hsecond⟩ := hlasts.map forward hstore
      (hstart.trans (hpath.time_le forward hstore)) (hkey _ rfl) hmap hend
    refine ⟨hlasts, ?_⟩
    simp only [frameAsks, hgot, hplace]
    exact hfirst.append hsecond
  cases hcourse with
  | noFile hgot =>
    rw [hgot] at hsource
    simpa only [frameAsks, hgot, List.append_nil] using hsource hend
  | noPlace hgot hplace =>
    rw [hgot] at hsource
    simpa only [frameAsks, hgot, hplace, List.append_nil] using hsource hend
  | noMap hgot hplace hmap => exact hmapped hgot hplace hmap
  | resolved hgot hplace hmap => exact hmapped hgot hplace hmap

end Parts

end State.Lasts

/-! ### Sessions -/

section Sessions

variable (forward : t.services.Forward time) (hstore : t.services.store = none)

include forward hstore

/-- In a moment the time does not run backwards, unless a change sets it back. -/
lemma time_le_afterMoment {moment : Moment σ}
    (hchange : ∀ change, moment = .change change → ∀ w, time w ≤ time (change w)) (s : State σ) :
    time s.world ≤ time (t.afterMoment s moment).world := by
  cases moment with
  | frame release f => exact (path_frame t release f s).time_le forward hstore
  | change change => exact hchange change rfl s.world

/-- In a session the time does not run backwards, as the changes do not set it back. -/
lemma time_le_afterMoments {session : List (Moment σ)}
    (hchanges : ∀ change, .change change ∈ session → ∀ w, time w ≤ time (change w)) (s : State σ) :
    time s.world ≤ time (t.afterMoments session s).world := by
  induction session generalizing s with
  | nil => exact le_rfl
  | cons moment rest ih =>
    have hmoment := time_le_afterMoment forward hstore
      (fun change hchange => hchanges change (hchange ▸ List.mem_cons_self)) s
    have hrest := ih (fun change hmem => hchanges change (List.mem_cons_of_mem _ hmem))
      (t.afterMoment s moment)
    exact hmoment.trans hrest

/-- A moment of a session asks once. -/
lemma State.Lasts.moment {moment : Moment σ} (h : s.Lasts files keys start stop)
    (hstart : start ≤ time s.world) (hfile : ∀ name ∈ moment.fileName?, name ∈ files)
    (hkey : ∀ key ∈ t.momentKey? s moment, key ∈ keys)
    (hend : time (t.afterMoment s moment).world < stop) :
    (t.afterMoment s moment).Lasts files keys start stop ∧
      AsksOnce s (t.momentAsks s moment) (t.afterMoment s moment) := by
  cases moment with
  | frame release f => exact h.frame forward hstore hstart (hfile _ rfl) hkey hend
  | change change => exact ⟨h.of_cache_eq rfl, .nothing fun _ _ => id⟩

/-- A session asks once. -/
lemma State.Lasts.session {session : List (Moment σ)}
    (hchanges : ∀ change, .change change ∈ session → ∀ w, time w ≤ time (change w))
    (h : s.Lasts files keys start stop) (hstart : start ≤ time s.world)
    (hfiles : ∀ name ∈ sessionFiles session, name ∈ files)
    (hkeys : ∀ key ∈ t.sessionKeys session s, key ∈ keys)
    (hend : time (t.afterMoments session s).world < stop) :
    AsksOnce s (t.sessionAsks session s) (t.afterMoments session s) := by
  induction session generalizing s with
  | nil => exact .nothing fun _ _ => id
  | cons moment rest ih =>
    have hlater : ∀ change, .change change ∈ rest → ∀ w, time w ≤ time (change w) :=
      fun change hmem => hchanges change (List.mem_cons_of_mem _ hmem)
    have htime := time_le_afterMoment forward hstore
      (fun change hchange => hchanges change (hchange ▸ List.mem_cons_self)) s
    have hrest := time_le_afterMoments forward hstore hlater (t.afterMoment s moment)
    have hfile : ∀ name ∈ moment.fileName?, name ∈ files := fun name hname =>
      hfiles name (List.mem_filterMap.mpr ⟨moment, List.mem_cons_self, hname⟩)
    obtain ⟨hlasts, hfirst⟩ := h.moment forward hstore hstart hfile
      (fun key hkey => hkeys key (List.mem_append_left _ (Option.mem_toList.mpr hkey)))
      (hrest.trans_lt hend)
    refine hfirst.append (ih hlater hlasts (hstart.trans htime) (fun name hname => ?_)
      (fun key hkey => hkeys key (List.mem_append_right _ hkey)) hend)
    obtain ⟨other, hmem, hother⟩ := List.mem_filterMap.mp hname
    exact hfiles name (List.mem_filterMap.mpr ⟨other, List.mem_cons_of_mem _ hmem, hother⟩)

end Sessions

end Steps

/-- A frame whose generated file holds its map itself asks for no map, and does nothing in the world
but read the clock after it has got the file. -/
lemma asks_inline {data : Bytes} (hplace : t.HasMapAt release f s (.inline data)) :
    (∀ a ∈ t.frameAsks release f s, a.role = .file) ∧
      Path t.services release (t.source release f.fileName s).2.world []
        (t.frame release f s).2.world := by
  obtain ⟨text, htext, hplace⟩ := hplace
  rcases hsource : t.source release f.fileName s with ⟨result, s₁⟩
  rw [hsource] at htext
  obtain rfl : result = .ok text := htext
  constructor
  · intro a ha
    simp only [frameAsks, hsource, hplace, mapLoads, List.filterMap_nil, List.append_nil] at ha
    obtain ⟨load, -, hask⟩ := List.mem_filterMap.mp ha
    obtain ⟨p, -, rfl⟩ := Option.map_eq_some_iff.mp hask
    rfl
  · obtain ⟨found, hcourse, -⟩ := mapCourse t release f.fileName (.inline data) s₁
    have hframe : (t.frame release f s).2 =
        (t.map release f.fileName (.inline data) s₁).2 := by
      simp only [Tracer.frame, hsource, hplace]
      rcases t.map release f.fileName (.inline data) s₁ with ⟨_ | ⟨map, base⟩, s₂⟩ <;> rfl
    rw [hframe]
    exact hcourse.path

/-- **Artifacts are fetched once.** A tracer without a store has a new cache, with room for all
generated files of a session and for all keys of maps that are used in it, in which nothing expires
before the session is over. In the session frames are traced and the world may change in any way
that does not set the clock back. Then nothing that was served is asked of the fetcher again in the
same role. And a frame whose generated file holds its map itself asks for no map: after getting the
file it does nothing in the world but read the clock. -/
theorem asks_once (t : Tracer σ) (forward : t.services.Forward time)
    (hstore : t.services.store = none) (capacity ttlSecs : ℕ) (w : σ) (session : List (Moment σ))
    (hchanges : ∀ change, .change change ∈ session → ∀ w, time w ≤ time (change w)) :
    let start : State σ := ⟨.make capacity ttlSecs, w⟩
    (sessionFiles session).toFinset.card ≤ capacity →
      (t.sessionKeys session start).toFinset.card ≤ capacity →
      time (t.afterMoments session start).world < time w + ttlSecs * Cache.unitsPerSecond →
      ((t.sessionAsks session start).Pairwise fun a b => a.Served → ¬ a.Same b) ∧
        ∀ release f s data, t.HasMapAt release f s (.inline data) →
          (∀ a ∈ t.frameAsks release f s, a.role = .file) ∧
            Path t.services release (t.source release f.fileName s).2.world []
              (t.frame release f s).2.world := by
  intro start hfiles hkeys hend
  have hlasts : start.Lasts (sessionFiles session).toFinset (t.sessionKeys session start).toFinset
      (time w) (time w + ttlSecs * Cache.unitsPerSecond) :=
    ⟨ExpiringMap.lasting_empty hfiles le_rfl, ExpiringMap.lasting_empty hkeys le_rfl⟩
  have hasks := hlasts.session forward hstore hchanges le_rfl
    (fun name hname => List.mem_toFinset.mpr hname) (fun key hkey => List.mem_toFinset.mpr hkey)
    hend
  exact ⟨hasks.once, fun release f s data hplace => asks_inline hplace⟩

end Tracer

/-! ### Two calls on a file -/

/-- The clock of the world moves on at each reading, and does not change while something is
fetched. -/
lemma World.forward_services (origin : Origin) (limit : ℕ) :
    (services origin limit .none).Forward clock where
  time_le_now := fun _ => le_rfl
  now_le := fun w => Nat.le_succ w.clock
  time_fetch := by
    intro location w
    obtain ⟨asked, opened, heq⟩ := exists_fetch_snd_eq origin limit location w
    change w.clock ≤ (fetch origin limit location w).2.clock
    rw [heq]

namespace Tracer

/-- The world when nothing is left in the memory that is fetched from. -/
def emptied (w : World) : World :=
  { w with artifacts := [] }

/-- Two calls on a file under different releases, between which the memory is emptied. -/
def twoCalls : List (Moment World) :=
  [.frame (versioned "1") firstPlace, .change emptied, .frame (versioned "2") firstPlace]

/-- A tracer with room for one entry of each kind, and a file and its map in memory. -/
def unusedMemory : State World :=
  ⟨.make 1 3600, fromMemory⟩

/-- What the tracer has changed after the file. -/
def scriptRead : State World :=
  ⟨⟨⟨1, 3600000000000, [("app.js", ⟨script, 1, 3600000000001⟩)], false⟩,
    ⟨1, 3600000000000, [("app.js.map", ⟨mapTo "one.ts", 3, 3600000000003⟩)], false⟩⟩,
    { fromMemory with clock := 4, asked := ["app.js", "app.js.map"] }⟩

/-- What is left of it when the memory is empty. -/
def scriptKept : State World :=
  { scriptRead with world := emptied scriptRead.world }

/-- The first call fetches the file and its map. -/
lemma asks_unusedMemory :
    (plain.frame (versioned "1") firstPlace unusedMemory).2 = scriptRead ∧
      plain.frameAsks (versioned "1") firstPlace unusedMemory =
        [⟨.file, "app.js", .ok script⟩, ⟨.map, "app.js.map", .ok (mapData "one.ts")⟩] ∧
      plain.frameKey? (versioned "1") firstPlace unusedMemory = some "app.js.map" := by
  obtain ⟨s₁, hsource, hasks, s₂, hcached, s₃, hload, hkeep⟩ :
      ∃ s₁, plain.source (versioned "1") firstPlace.fileName unusedMemory = (.ok script, s₁) ∧
        (plain.sourceLoads "app.js" unusedMemory).filterMap
            (Load.ask? plain.services (versioned "1") .file) ++
          (plain.mapLoads (.external "app.js.map") s₁).filterMap
            (Load.ask? plain.services (versioned "1") .map) =
          [⟨.file, "app.js", .ok script⟩, ⟨.map, "app.js.map", .ok (mapData "one.ts")⟩] ∧
        ∃ s₂, plain.cachedMap? "app.js.map" s₁ = (none, s₂) ∧
          ∃ s₃, plain.load (versioned "1") "app.js.map" s₂ = (.ok (mapData "one.ts"), s₃) ∧
            plain.keepMap "app.js.map" (mapTo "one.ts") s₃ = scriptRead :=
    ⟨_, rfl, rfl, _, rfl, _, rfl, rfl⟩
  have hplace : mapOf? firstPlace.fileName script = .ok (.external "app.js.map") := mapOf?_script
  have hcourse := FrameCourse.resolved hsource hplace
    (.externalRead hcached hload (decode?_mapData "app.js.map" (.inl rfl)))
  refine ⟨(congrArg Prod.snd hcourse.frame_eq).trans hkeep, ?_, ?_⟩
  · simp only [frameAsks, hsource, hplace]
    exact hasks
  · simp only [frameKey?, hsource, hplace, mapKey]

/-- The second call finds them in the cache. -/
lemma asks_scriptKept :
    (plain.frame (versioned "2") firstPlace scriptKept).2.world.clock = 6 ∧
      plain.frameAsks (versioned "2") firstPlace scriptKept = [] ∧
      plain.frameKey? (versioned "2") firstPlace scriptKept = some "app.js.map" := by
  obtain ⟨s₁, hsource, hasks, s₂, hcached, hclock⟩ :
      ∃ s₁, plain.source (versioned "2") firstPlace.fileName scriptKept = (.ok script, s₁) ∧
        (plain.sourceLoads "app.js" scriptKept).filterMap
            (Load.ask? plain.services (versioned "2") .file) ++
          (plain.mapLoads (.external "app.js.map") s₁).filterMap
            (Load.ask? plain.services (versioned "2") .map) = [] ∧
        ∃ s₂, plain.cachedMap? "app.js.map" s₁ = (some (mapTo "one.ts"), s₂) ∧
          s₂.world.clock = 6 :=
    ⟨_, rfl, rfl, _, rfl, rfl⟩
  have hplace : mapOf? firstPlace.fileName script = .ok (.external "app.js.map") := mapOf?_script
  have hcourse := FrameCourse.resolved hsource hplace (.hit hcached)
  refine ⟨?_, ?_, ?_⟩
  · rw [hcourse.frame_eq]
    exact hclock
  · simp only [frameAsks, hsource, hplace]
    exact hasks
  · simp only [frameKey?, hsource, hplace, mapKey]

/-- What is asked for, the keys that are used, and the time at the end. -/
lemma session_twoCalls :
    plain.sessionAsks twoCalls unusedMemory =
        [⟨.file, "app.js", .ok script⟩, ⟨.map, "app.js.map", .ok (mapData "one.ts")⟩] ∧
      plain.sessionKeys twoCalls unusedMemory = ["app.js.map", "app.js.map"] ∧
      (plain.afterMoments twoCalls unusedMemory).world.clock = 6 := by
  obtain ⟨hread, hasks, hkey⟩ := asks_unusedMemory
  obtain ⟨hclock, hasks', hkey'⟩ := asks_scriptKept
  have hfirst : plain.afterMoment unusedMemory (.frame (versioned "1") firstPlace) = scriptRead :=
    hread
  have hemptied : plain.afterMoment scriptRead (.change emptied) = scriptKept := rfl
  refine ⟨?_, ?_, ?_⟩
  · simp only [twoCalls, sessionAsks, momentAsks, hasks, hfirst, hemptied, hasks']
    rfl
  · simp only [twoCalls, sessionKeys, momentKey?, hkey, hfirst, hemptied, hkey']
    rfl
  · simp only [twoCalls, afterMoments, List.foldl_cons, List.foldl_nil, hfirst, hemptied]
    exact hclock

/-- Although nothing can be fetched any more, the second call need not ask again. -/
theorem twoCalls_ask_once :
    plain.sessionAsks twoCalls unusedMemory =
        [⟨.file, "app.js", .ok script⟩, ⟨.map, "app.js.map", .ok (mapData "one.ts")⟩] ∧
      ((plain.sessionAsks twoCalls unusedMemory).Pairwise fun a b => a.Served → ¬ a.Same b) ∧
      (plain.afterMoments twoCalls unusedMemory).world.asked = ["app.js", "app.js.map"] := by
  obtain ⟨hasks, hkeys, hend⟩ := session_twoCalls
  have hchange : ∀ change : World → World, .change change ∈ twoCalls → change = emptied := by
    intro change hmem
    simpa [twoCalls] using hmem
  have hchanges : ∀ change, .change change ∈ twoCalls →
      ∀ w : World, w.clock ≤ (change w).clock := by
    intro change hmem w
    rw [hchange change hmem, emptied]
  have hsilent : ∀ change, .change change ∈ twoCalls →
      ∀ w : World, (change w).asked = w.asked := by
    intro change hmem w
    rw [hchange change hmem, emptied]
  have hfiles : (sessionFiles twoCalls).toFinset.card ≤ 1 := by decide
  have hroom : (plain.sessionKeys twoCalls unusedMemory).toFinset.card ≤ 1 := by
    rw [hkeys]
    decide
  have hlasts : (plain.afterMoments twoCalls unusedMemory).world.clock <
      fromMemory.clock + 3600 * Cache.unitsPerSecond := by
    rw [hend]
    decide
  have honce := asks_once plain (World.forward_services .memory Settings.default.maxArtifactBytes)
    rfl 1 3600 fromMemory twoCalls hchanges hfiles hroom hlasts
  have logs : plain.services.Logs World.asked fun location _ => location :=
    World.logs_services Settings.default.maxArtifactBytes .none
  have hlog := log_afterMoments logs hsilent unusedMemory
  rw [hasks] at hlog
  exact ⟨hasks, honce.1, hlog⟩

end Tracer

end Retrace
