import Mathlib
import Retrace.Proofs.Cache.Overruns
import Retrace.Proofs.Context.Window
import Retrace.Proofs.Tracer.Invariants
import Retrace.Proofs.Tracer.Loads

/-!
# Numbers that are too large

A run gives the traced frames of a stack trace, unless a number on the way is too large
(`run_fst`): that of a time at which something is to expire, or that of the first line behind the
window of an excerpt.

The windows fit whenever the number of their lines leaves room for a line number of thirty-two bits
(`windowOverruns_eq_false`). The times fit as long as the clock goes on for the time to live after
the end of the run (`State.InReach.overran_eq_false`), as nothing is put into the cache later than
that, and a run reads the clock no more than six times for each of its frames (`time_frames_le`).
And a time to live that is as long as the clock itself never fits: the first file that is got is too
much for the clock, and nothing else is (`overran_frame_iff`).
-/

namespace Retrace

variable {σ : Type}

/-- A clock that does not run backwards, neither when it is read nor when something is loaded. -/
structure Services.Clock (services : Services σ) (time : σ → ℕ) : Prop where
  now_le (w : σ) : (services.now w).1 ≤ time (services.now w).2
  time_now (w : σ) : time w ≤ time (services.now w).2
  time_load (release : Release) (location : String) (w : σ) :
    time w ≤ time (services.load release location w).2

/-- A clock that moves on by no more than one when it is read, and not at all while something is
loaded. -/
structure Services.Counts (services : Services σ) (time : σ → ℕ) : Prop where
  time_now (w : σ) : time (services.now w).2 ≤ time w + 1
  time_load (release : Release) (location : String) (w : σ) :
    time (services.load release location w).2 ≤ time w

namespace Tracer

variable {t : Tracer σ} {release : Release} {f : StackFrame} {fs : List StackFrame}
  {s s' : State σ}

/-! ### Runs and traces -/

/-- A run leaves what the trace leaves. -/
lemma run_snd (t : Tracer σ) (release : Release) (stack : Option (List StackFrame))
    (s : State σ) : (t.run release stack s).2 = (t.trace release stack s).2 := by
  rw [run]
  split
  · next heq => rw [heq]
  · next heq =>
    rw [heq]
    split <;> rfl

/-- A run gives the traced frames unless a number is too large. -/
lemma run_fst (t : Tracer σ) (release : Release) (fs : List StackFrame) (s : State σ) :
    (t.run release (some fs) s).1 =
      if (t.run release (some fs) s).2.cache.overran ||
          (t.frames release fs s).1.any t.windowOverruns then .error .overflow
      else .ok (t.frames release fs s).1 := by
  rw [run_snd]
  exact apply_ite Prod.fst _ _ _

/-! ### Windows -/

/-- A window fits that leaves room for a line number of thirty-two bits. -/
lemma windowOverruns_eq_false (h : t.contextLines + 2 ^ 32 ≤ 2 ^ 64) (out : TracedFrame) :
    t.windowOverruns out = false := by
  have hline : (out.lineNumber.getD 0).toNat < 2 ^ 32 := UInt32.toNat_lt _
  have hfits : ¬ Excerpt.numberEnd ≤ (out.lineNumber.getD 0).toNat + t.contextLines := by
    unfold Excerpt.numberEnd
    omega
  rw [windowOverruns, decide_eq_false hfits, Bool.and_false]

/-- Then all windows fit. -/
lemma any_windowOverruns_eq_false (h : t.contextLines + 2 ^ 32 ≤ 2 ^ 64)
    (traced : List TracedFrame) : traced.any t.windowOverruns = false := by
  rw [List.any_eq_false]
  intro out _
  rw [windowOverruns_eq_false h]
  exact Bool.false_ne_true

/-- A frame without an excerpt has no window. -/
lemma windowOverruns_of_lineContent_eq_none {out : TracedFrame} (h : out.lineContent = none) :
    t.windowOverruns out = false := by
  rw [windowOverruns, h]
  rfl

/-- There is an excerpt where the map has the content of the source, and this has the line. -/
lemma isSome_excerpt?_iff {map : SourceMap} {position : SourceMap.Position} {window : ℕ} :
    (excerpt? map position window).isSome ↔ ∃ content, map.contentOf position.sourceIndex =
      some content ∧ (Excerpt.around content position.line window).isEmpty = false := by
  rw [excerpt?]
  cases map.contentOf position.sourceIndex with
  | none => simp
  | some content =>
    dsimp only
    cases hempty : (Excerpt.around content position.line window).isEmpty <;> simp [hempty]

/-- The window of a traced frame overruns if that of its line in the content of the source does. -/
lemma windowOverruns_tracedFrame_iff {map : SourceMap} {base : String}
    {position : SourceMap.Position} (hline : position.line < 2 ^ 32) :
    t.windowOverruns (tracedFrame map base t.contextLines position) = true ↔
      ∃ content, map.contentOf position.sourceIndex = some content ∧
        Excerpt.windowOverruns content position.line t.contextLines = true := by
  have hnumber : ((tracedFrame map base t.contextLines position).lineNumber.getD 0).toNat =
      position.line := UInt32.toNat_ofNat_of_lt' hline
  have hexcerpt : (tracedFrame map base t.contextLines position).lineContent.isSome =
      (excerpt? map position t.contextLines).isSome := Option.isSome_map
  rw [windowOverruns, hnumber, hexcerpt, Bool.and_eq_true, isSome_excerpt?_iff, decide_eq_true_eq]
  constructor
  · rintro ⟨⟨content, hcontent, hempty⟩, hlarge⟩
    refine ⟨content, hcontent, ?_⟩
    have hinside := (Excerpt.isEmpty_around_iff content position.line t.contextLines).not.mp
      (Bool.eq_false_iff.mp hempty)
    rw [← Text.length_pieces] at hinside
    simp only [Excerpt.windowOverruns, Bool.and_eq_true, decide_eq_true_eq]
    omega
  · rintro ⟨content, hcontent, hover⟩
    simp only [Excerpt.windowOverruns, Bool.and_eq_true, decide_eq_true_eq] at hover
    refine ⟨⟨content, hcontent, Bool.eq_false_iff.mpr ?_⟩, hover.2⟩
    rw [ne_eq, Excerpt.isEmpty_around_iff, ← Text.length_pieces]
    omega

/-! ### Times within reach of the clock -/

/-- What the cache keeps it keeps for no longer than `ttl`, and it has noted no time but such as
come within `ttl` from now. -/
structure State.InReach (ttl : ℕ) (time : σ → ℕ) (s : State σ) : Prop where
  sources : s.cache.sources.ttl ≤ ttl
  maps : s.cache.maps.ttl ≤ ttl
  overran : s.cache.overran = true → ExpiringMap.clockEnd ≤ time s.world + ttl

/-- A cache that has noted nothing. -/
lemma State.inReach_of_overran_eq_false {ttl : ℕ} {time : σ → ℕ}
    (hsources : s.cache.sources.ttl ≤ ttl) (hmaps : s.cache.maps.ttl ≤ ttl)
    (hnothing : s.cache.overran = false) : s.InReach ttl time :=
  ⟨hsources, hmaps, fun hover => absurd (hnothing.symm.trans hover) Bool.false_ne_true⟩

/-- When the clock goes on for long enough, nothing has been noted. -/
lemma State.InReach.overran_eq_false {ttl : ℕ} {time : σ → ℕ} (h : s.InReach ttl time)
    (hlate : time s.world + ttl < ExpiringMap.clockEnd) : s.cache.overran = false := by
  rw [Bool.eq_false_iff]
  intro hover
  have hend := h.overran hover
  omega

section Clocks

variable {time : σ → ℕ} {ttl : ℕ} (clock : t.services.Clock time)

include clock

/-- The time does not run backwards while the clock is read, and what is put in is put in by its
end. -/
lemma Stamped.time_le_of_clock {α : Type} {m : ExpiringMap α} {key : String} {w w' : σ}
    {roomAt now : ℕ} (h : t.Stamped m key w roomAt now w') :
    time w ≤ time w' ∧ (m.capacity ≠ 0 → now ≤ time w') := by
  cases h with
  | closed hclosed => exact ⟨le_rfl, fun hopen => absurd hclosed hopen⟩
  | once => exact ⟨clock.time_now w, fun _ => clock.now_le w⟩
  | twice => exact ⟨(clock.time_now w).trans (clock.time_now _), fun _ => clock.now_le _⟩

/-- Every step of a tracer keeps the times within reach. -/
lemma invariant_inReach (release : Release) : t.Invariant release (State.InReach ttl time) where
  cachedSource? {s} h location := by
    obtain ⟨-, httl, -⟩ := s.cache.sources.get?_settings (t.services.now s.world).1 location
    refine ⟨httl.trans_le h.sources, h.maps, fun hover => ?_⟩
    have hbefore := h.overran ((s.cache.overran_source? _ location).symm.trans hover)
    exact hbefore.trans (Nat.add_le_add_right (clock.time_now s.world) ttl)
  keepSource {s} h location data := by
    obtain ⟨htime, hnow⟩ :=
      (t.stamped s.cache.sources location s.world).time_le_of_clock clock
    refine ⟨(s.cache.sources.insert_settings _ _ location data).2.trans_le h.sources, h.maps,
      fun hover => ?_⟩
    rcases (s.cache.overran_keepSource _ _ location data).mp hover with hbefore | ⟨hopen, hlarge⟩
    · exact (h.overran hbefore).trans (Nat.add_le_add_right htime ttl)
    · exact hlarge.trans (Nat.add_le_add (hnow hopen) h.sources)
  cachedMap? {s} h key := by
    obtain ⟨-, httl, -⟩ := s.cache.maps.get?_settings (t.services.now s.world).1 key
    refine ⟨h.sources, httl.trans_le h.maps, fun hover => ?_⟩
    have hbefore := h.overran ((s.cache.overran_map? _ key).symm.trans hover)
    exact hbefore.trans (Nat.add_le_add_right (clock.time_now s.world) ttl)
  keepMap {s} h key map := by
    obtain ⟨htime, hnow⟩ := (t.stamped s.cache.maps key s.world).time_le_of_clock clock
    refine ⟨h.sources, (s.cache.maps.insert_settings _ _ key map).2.trans_le h.maps,
      fun hover => ?_⟩
    rcases (s.cache.overran_keepMap _ _ key map).mp hover with hbefore | ⟨hopen, hlarge⟩
    · exact (h.overran hbefore).trans (Nat.add_le_add_right htime ttl)
    · exact hlarge.trans (Nat.add_le_add (hnow hopen) h.maps)
  load {s} h location :=
    ⟨h.sources, h.maps, fun hover => (h.overran hover).trans
      (Nat.add_le_add_right (clock.time_load release location s.world) ttl)⟩

end Clocks

/-! ### Readings of the clock -/

section Counts

variable {time : σ → ℕ} (counts : t.services.Counts time)

include counts

/-- To put something in the clock is read no more than twice. -/
lemma Stamped.time_le_of_counts {α : Type} {m : ExpiringMap α} {key : String} {w w' : σ}
    {roomAt now : ℕ} (h : t.Stamped m key w roomAt now w') : time w' ≤ time w + 2 := by
  cases h with
  | closed => exact Nat.le_add_right _ _
  | once => exact (counts.time_now w).trans (Nat.le_succ _)
  | twice => exact (counts.time_now _).trans (Nat.succ_le_succ (counts.time_now w))

/-- It is read once to look for the content of a generated file. -/
lemma time_of_cachedSource? {location : String} {found : Option Bytes}
    (h : t.cachedSource? location s = (found, s')) : time s'.world ≤ time s.world + 1 := by
  obtain rfl := congrArg Prod.snd h
  exact counts.time_now s.world

/-- It is read once to look for a map. -/
lemma time_of_cachedMap? {key : String} {found : Option SourceMap}
    (h : t.cachedMap? key s = (found, s')) : time s'.world ≤ time s.world + 1 := by
  obtain rfl := congrArg Prod.snd h
  exact counts.time_now s.world

/-- It is not read to load something. -/
lemma time_of_load {location : String} {result : Except Fetch.Error Bytes}
    (h : t.load release location s = (result, s')) : time s'.world ≤ time s.world := by
  obtain rfl := congrArg Prod.snd h
  exact counts.time_load release location s.world

/-- A generated file takes three readings at most. -/
lemma time_source_le (release : Release) (location : String) (s : State σ) :
    time (t.source release location s).2.world ≤ time s.world + 3 := by
  have hcourse := sourceCourse t release location s
  generalize (t.source release location s).1 = result at hcourse
  generalize (t.source release location s).2 = s' at hcourse ⊢
  cases hcourse with
  | hit hcached => exact (time_of_cachedSource? counts hcached).trans (by omega)
  | lost hcached hload =>
    have hlooked := time_of_cachedSource? counts hcached
    exact (time_of_load counts hload).trans (hlooked.trans (by omega))
  | @loaded data s₁ s₂ hcached hload =>
    have hlooked := time_of_cachedSource? counts hcached
    have hloaded := time_of_load counts hload
    have hkept : time (t.keepSource location data s₂).world ≤ time s₂.world + 2 :=
      (t.stamped s₂.cache.sources location s₂.world).time_le_of_counts counts
    omega

/-- A map takes three readings at most. -/
lemma MapCourse.time_le {location : String} {place : MapLocation}
    {found : Except Failure SourceMap} (h : MapCourse t release location s place found s') :
    time s'.world ≤ time s.world + 3 := by
  have hkept : ∀ key map (s₂ : State σ), time (t.keepMap key map s₂).world ≤ time s₂.world + 2 :=
    fun key map s₂ => (t.stamped s₂.cache.maps key s₂.world).time_le_of_counts counts
  cases h with
  | hit hcached => exact (time_of_cachedMap? counts hcached).trans (by omega)
  | inlineBad hcached => exact (time_of_cachedMap? counts hcached).trans (by omega)
  | inlineRead hcached =>
    have hlooked := time_of_cachedMap? counts hcached
    exact (hkept _ _ _).trans (by omega)
  | externalLost hcached hload =>
    have hlooked := time_of_cachedMap? counts hcached
    exact (time_of_load counts hload).trans (by omega)
  | externalBad hcached hload =>
    have hlooked := time_of_cachedMap? counts hcached
    exact (time_of_load counts hload).trans (by omega)
  | externalRead hcached hload =>
    have hlooked := time_of_cachedMap? counts hcached
    have hloaded := time_of_load counts hload
    exact (hkept _ _ _).trans (by omega)

/-- A frame takes six readings at most. -/
lemma time_frame_le (release : Release) (f : StackFrame) (s : State σ) :
    time (t.frame release f s).2.world ≤ time s.world + 6 := by
  have hsource := time_source_le counts release f.fileName s
  have hcourse := frameCourse t release f s
  generalize (t.frame release f s).1 = result at hcourse
  generalize (t.frame release f s).2 = s' at hcourse ⊢
  cases hcourse with
  | noFile hgot =>
    rw [hgot] at hsource
    exact hsource.trans (by omega)
  | noPlace hgot =>
    rw [hgot] at hsource
    exact hsource.trans (by omega)
  | noMap hgot _ hmap =>
    rw [hgot] at hsource
    exact (hmap.time_le counts).trans (Nat.add_le_add_right hsource 3)
  | resolved hgot _ hmap =>
    rw [hgot] at hsource
    exact (hmap.time_le counts).trans (Nat.add_le_add_right hsource 3)

/-- Frames take six readings each at most. -/
lemma time_frames_le (release : Release) (fs : List StackFrame) (s : State σ) :
    time (t.frames release fs s).2.world ≤ time s.world + 6 * fs.length := by
  induction fs generalizing s with
  | nil => exact le_rfl
  | cons f rest ih =>
    have hfirst := time_frame_le counts release f s
    have hrest : time (t.frames release (f :: rest) s).2.world ≤
        time (t.frame release f s).2.world + 6 * rest.length := ih _
    rw [List.length_cons]
    omega

/-- No time is too large as long as the clock goes on for that many readings and the time to
live. -/
lemma overran_frames_eq_false (clock : t.services.Clock time) {ttl : ℕ} (h : s.InReach ttl time)
    (release : Release) (fs : List StackFrame)
    (hlate : time s.world + 6 * fs.length + ttl < ExpiringMap.clockEnd) :
    (t.frames release fs s).2.cache.overran = false := by
  have hafter := (invariant_inReach clock release).frames h fs
  have htime := time_frames_le counts release fs s
  exact hafter.overran_eq_false (by omega)

end Counts

/-! ### Times that the clock never has -/

section Overlong

variable (h : s.cache.Overlong)

include h

/-- As long as a cache for which the clock has no times has noted nothing, it has no contents. -/
lemma cachedSource?_of_overlong (hnothing : ¬ s.cache.overran = true) (location : String) :
    t.cachedSource? location s = (none, ⟨s.cache, (t.services.now s.world).2⟩) := by
  have hempty : s.cache.sources.entries = [] := h.empty.resolve_left hnothing
  simp [cachedSource?, Cache.source?, ExpiringMap.get?, hempty]

/-- Such a cache notes that a generated file is got. -/
lemma overran_source_iff (release : Release) (location : String) :
    (t.source release location s).2.cache.overran = true ↔
      s.cache.overran = true ∨ ∃ data, (t.source release location s).1 = .ok data := by
  have inv := invariant_cache Cache.invariant_overlong t release
  by_cases hover : s.cache.overran = true
  · have hstays := (invariant_cache Cache.invariant_overran t release).source hover location
    exact ⟨fun _ => .inl hover, fun _ => hstays⟩
  · have hmissed := cachedSource?_of_overlong (t := t) h hover location
    have hcourse := sourceCourse t release location s
    generalize (t.source release location s).1 = result at hcourse ⊢
    generalize (t.source release location s).2 = s' at hcourse ⊢
    cases hcourse with
    | hit hcached => cases hcached.symm.trans hmissed
    | @lost e s₁ s₂ hcached hload =>
      obtain rfl := congrArg Prod.snd (hmissed.symm.trans hcached)
      obtain ⟨-, rfl⟩ := Prod.mk.inj hload
      simp
    | @loaded data s₁ s₂ hcached hload =>
      have hlong := inv.of_load hload (inv.of_cachedSource? hcached h)
      exact ⟨fun _ => .inr ⟨data, rfl⟩, fun _ => hlong.overran_keepSource _ _ location data⟩

/-- And it notes nothing else of a frame. -/
lemma overran_frame_iff (release : Release) (f : StackFrame) :
    (t.frame release f s).2.cache.overran = true ↔
      s.cache.overran = true ∨ ∃ data, (t.source release f.fileName s).1 = .ok data := by
  have inv := invariant_cache Cache.invariant_overran t release
  have hsource := overran_source_iff (t := t) h release f.fileName
  have hcourse := frameCourse t release f s
  generalize (t.frame release f s).1 = result at hcourse
  generalize (t.frame release f s).2 = s' at hcourse ⊢
  cases hcourse with
  | noFile hgot =>
    rw [hgot] at hsource ⊢
    exact hsource
  | noPlace hgot =>
    rw [hgot] at hsource ⊢
    exact hsource
  | @noMap text _ _ _ _ hgot _ hmap =>
    rw [hgot] at hsource ⊢
    have hover := inv.of_mapCourse hmap (hsource.mpr (.inr ⟨text, rfl⟩))
    exact ⟨fun _ => .inr ⟨text, rfl⟩, fun _ => hover⟩
  | @resolved text _ _ _ _ hgot _ hmap =>
    rw [hgot] at hsource ⊢
    have hover := inv.of_mapCourse hmap (hsource.mpr (.inr ⟨text, rfl⟩))
    exact ⟨fun _ => .inr ⟨text, rfl⟩, fun _ => hover⟩

end Overlong

end Tracer

/-- The clock of the world moves on at each reading, and stands still while something is loaded. -/
lemma World.clock_services (origin : Origin) (limit : ℕ) (use : StoreUse) :
    (services origin limit use).Clock clock where
  now_le := fun w => Nat.le_succ w.clock
  time_now := fun w => Nat.le_succ w.clock
  time_load := fun release location w =>
    (keeps_services (P := fun w' => w.clock ≤ w'.clock) origin limit use (fun _ _ h => h)
      fun _ _ _ _ h => h).load release location le_rfl

/-- Each reading moves that clock on by one. -/
lemma World.counts_services (origin : Origin) (limit : ℕ) (use : StoreUse) :
    (services origin limit use).Counts clock where
  time_now := fun _ => le_rfl
  time_load := fun release location w =>
    (keeps_services (P := fun w' => w'.clock ≤ w.clock) origin limit use (fun _ _ h => h)
      fun _ _ _ _ h => h).load release location le_rfl

end Retrace
