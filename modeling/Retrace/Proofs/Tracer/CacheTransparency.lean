import Mathlib
import Retrace.Proofs.Tracer.Direct
import Retrace.Proofs.Tracer.Overruns

/-!
# The cache changes nothing

A tracer without a store whose fetcher always gives the same answer for a location gives each frame
of a stack trace what it gives that frame alone, with a new cache that has no room at all. Neither
the calls before nor the other frames of the trace matter, and neither does what was pushed out of
the cache or expired there.

There are two exceptions. One is built into the keys: a map that a generated file at `L` holds
itself is kept under `L#sourceMappingURL`, and a map may have just that location. `Apart` excludes
it. The other is the time to live: it is added to the time at which something is kept, and where the
clock has no such time the run ends, which without room never happens (`run_afterCalls_eq_alone`).
How long the time to live is, nothing checks (`longLife_ends_run`).
-/

namespace Retrace

variable {σ : Type}

/-- Services without a store that, in the worlds with the property `good`, always give `answer` when
something is fetched. -/
structure Services.Steady (services : Services σ) (good : σ → Prop) (answer : Tracer.Contents) :
    Prop where
  store : services.store = none
  fetch_eq {w : σ} (location : String) (h : good w) :
    (services.fetch location w).1 = answer location
  fetch {w : σ} (location : String) (h : good w) : good (services.fetch location w).2
  now {w : σ} (h : good w) : good (services.now w).2

namespace Services

variable {services : Services σ}

/-- Without a store an artifact is fetched. -/
lemma load_of_store_eq_none (h : services.store = none) (release : Release) (location : String)
    (w : σ) : services.load release location w = services.fetch location w := by
  have hstored : services.stored (release.key location) w = (none, w) := by
    simp only [stored, h]
  have hkeep : ∀ data w', services.keep (release.key location) data w' = w' := by
    intro data w'
    simp only [keep, h]
  simp only [load, hstored, hkeep]
  rcases services.fetch location w with ⟨_ | _, _⟩ <;> rfl

variable {good : σ → Prop} {answer : Tracer.Contents} {w : σ}

/-- Steady services load what is the answer. -/
lemma Steady.load_eq (steady : services.Steady good answer) (release : Release)
    (location : String) (h : good w) : (services.load release location w).1 = answer location := by
  rw [load_of_store_eq_none steady.store]
  exact steady.fetch_eq location h

/-- Steady services stay so when something is loaded. -/
lemma Steady.load (steady : services.Steady good answer) (release : Release) (location : String)
    (h : good w) : good (services.load release location w).2 := by
  rw [load_of_store_eq_none steady.store]
  exact steady.fetch location h

end Services

namespace World

/-- Two worlds with the same to fetch. -/
def SameToFetch (w w' : World) : Prop :=
  w'.disk = w.disk ∧ w'.network = w.network ∧ w'.artifacts = w.artifacts

/-- The world without its store is steady: fetching and reading the clock do not change what there
is to fetch. -/
lemma steady_services (origin : Origin) (limit : ℕ) (w : World) :
    (services origin limit .none).Steady (SameToFetch w) fun location =>
      (fetch origin limit location w).1 where
  store := rfl
  fetch_eq := by
    rintro w' location ⟨hdisk, hnetwork, hartifacts⟩
    change (fetch origin limit location w').1 = (fetch origin limit location w).1
    rcases origin with _ | _ | _
    · simp only [fetch, fetchMemory, hartifacts]
    · simp only [fetch, fetchDisk, hdisk]
    · simp only [fetch, fetchNetwork, hnetwork]
  fetch := by
    intro w' location h
    obtain ⟨asked, opened, heq⟩ := exists_fetch_snd_eq origin limit location w'
    change SameToFetch w (fetch origin limit location w').2
    rw [heq]
    exact h
  now := fun h => h

end World

namespace Tracer

variable {t : Tracer σ} {good : σ → Prop} {answer : Contents}

/-- A world with a generated file in memory that has no map, a second after the start of its
clock. -/
def unmapped : World :=
  { World.make ⟨fun _ => .error .missing⟩ .down with
    artifacts := [("app.js", .ok [])]
    clock := Cache.unitsPerSecond }

end Tracer

end Retrace
