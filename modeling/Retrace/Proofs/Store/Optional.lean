import Mathlib
import Retrace.Proofs.Tracer.WriteBack

/-!
# With a store or without

What a load does where there is no store, or one that works (`Services.Stores`). If the store holds
the artifact it is loaded from there (`Stores.load_of_held`), and otherwise the fetcher is asked
(`Stores.load_of_missing`). What is fetched goes into the store, if there is one
(`Stores.load_got`). What cannot be fetched leaves the store as it is, without that artifact
(`Stores.load_lost`).
-/

namespace Retrace

variable {σ : Type}

namespace Services

/-- Services without a store, or with a share in a store that works. What the store holds is
`objects`, which is nothing if there is none. -/
inductive Stores (services : Services σ) (objects : σ → String → Option Bytes) : Prop
  | without (hstore : services.store = none) (hobjects : ∀ w text, objects w text = none)
  | shared {store : StoreAccess σ} (shares : services.Shares store objects)

variable {services : Services σ} {objects : σ → String → Option Bytes} {release : Release}
  {location : String} {data : Bytes} {e : Fetch.Error} {w w' : σ}

namespace Stores

variable (stores : services.Stores objects)

include stores

/-- Where there is no store nothing is held. -/
lemma objects_of_store_eq_none (h : services.store = none) (w : σ) (text : String) :
    objects w text = none := by
  cases stores with
  | without _ hobjects => exact hobjects w text
  | shared shares =>
    rw [shares.store_eq] at h
    cases h

/-- What is stored is what the store holds, and asking changes nothing of that. -/
lemma stored_eq (key : ArtifactKey) (w : σ) :
    ∃ w₁, services.stored key w = (objects w key.text, w₁) ∧ objects w₁ = objects w := by
  cases stores with
  | without hstore hobjects =>
    refine ⟨w, ?_, rfl⟩
    rw [stored, hstore, hobjects]
  | @shared store shares =>
    exact ⟨_, shares.working.stored_eq key w, shares.works.get_snd key w⟩

/-- Fetching leaves the store alone. -/
lemma objects_fetch (location : String) (w : σ) :
    objects (services.fetch location w).2 = objects w := by
  cases stores with
  | without _ hobjects =>
    funext text
    rw [hobjects, hobjects]
  | shared shares => exact shares.objects_fetch location w

/-- Reading the clock leaves the store alone. -/
lemma objects_now (w : σ) : objects (services.now w).2 = objects w := by
  cases stores with
  | without _ hobjects =>
    funext text
    rw [hobjects, hobjects]
  | shared shares => exact shares.objects_now w

/-- What is kept is in the store afterwards, if there is one. -/
lemma objects_keep (key : ArtifactKey) (data : Bytes) (w : σ) :
    services.store = none ∧ objects (services.keep key data w) = objects w ∨
      objects (services.keep key data w) = Function.update (objects w) key.text (some data) := by
  cases stores with
  | without hstore hobjects =>
    refine .inl ⟨hstore, ?_⟩
    rw [keep, hstore]
  | @shared store shares =>
    right
    rw [keep, shares.store_eq]
    funext text
    by_cases htext : text = key.text
    · rw [htext, Function.update_self]
      exact shares.works.put_self key data w
    · rw [Function.update_of_ne htext]
      exact shares.works.put_of_ne key data w htext

/-- What the store holds is loaded from it. -/
lemma load_of_held (hheld : objects w (release.key location).text = some data) :
    ∃ w', services.load release location w = (.ok data, w') ∧ objects w' = objects w := by
  obtain ⟨w₁, hstored, hobjects⟩ := stores.stored_eq (release.key location) w
  rw [hheld] at hstored
  refine ⟨w₁, ?_, hobjects⟩
  rw [load, hstored]

/-- For what the store does not hold the fetcher is asked, and its answer is what is loaded. -/
lemma load_of_missing (hnone : objects w (release.key location).text = none) :
    Tracer.Load.fetch? services release ⟨location, w⟩ =
      some (location, (services.load release location w).1) := by
  obtain ⟨w₁, hstored, -⟩ := stores.stored_eq (release.key location) w
  rw [hnone] at hstored
  simp only [Tracer.Load.fetch?, load, hstored]
  cases services.fetch location w₁ with
  | mk answer w₂ => cases answer <;> rfl

/-- What cannot be loaded the store does not hold, neither before nor after. -/
lemma load_lost (hload : services.load release location w = (.error e, w')) :
    objects w (release.key location).text = none ∧ objects w' = objects w := by
  obtain ⟨w₁, hstored, hobjects⟩ := stores.stored_eq (release.key location) w
  have hcourse := services.loadCourse release location w
  rw [hload] at hcourse
  dsimp only at hcourse
  generalize hresult : (Except.error e : Except Fetch.Error Bytes) = result at hcourse
  cases hcourse with
  | held => cases hresult
  | fetched => cases hresult
  | @lost _ w₂ _ hstored' hfetch =>
    obtain ⟨hnone, rfl⟩ := Prod.mk.inj (hstored'.symm.trans hstored)
    have hfetched := stores.objects_fetch location w₂
    rw [hfetch] at hfetched
    exact ⟨hnone.symm, hfetched.trans hobjects⟩

/-- What is loaded the store held before, or it was fetched and, if there is a store, put into it.
-/
lemma load_got (hload : services.load release location w = (.ok data, w')) :
    objects w (release.key location).text = some data ∧ objects w' = objects w ∨
      objects w (release.key location).text = none ∧
        (services.store = none ∧ objects w' = objects w ∨
          objects w' =
            Function.update (objects w) (release.key location).text (some data)) := by
  obtain ⟨w₁, hstored, hobjects⟩ := stores.stored_eq (release.key location) w
  have hcourse := services.loadCourse release location w
  rw [hload] at hcourse
  dsimp only at hcourse
  generalize hresult : (Except.ok data : Except Fetch.Error Bytes) = result at hcourse
  cases hcourse with
  | lost => cases hresult
  | held hstored' =>
    obtain rfl := Except.ok.inj hresult
    obtain ⟨hheld, rfl⟩ := Prod.mk.inj (hstored'.symm.trans hstored)
    exact .inl ⟨hheld.symm, hobjects⟩
  | @fetched _ w₂ w₃ hstored' hfetch =>
    obtain rfl := Except.ok.inj hresult
    obtain ⟨hnone, rfl⟩ := Prod.mk.inj (hstored'.symm.trans hstored)
    have hfetched := stores.objects_fetch location w₂
    rw [hfetch] at hfetched
    have hkeep := stores.objects_keep (release.key location) data w₃
    rw [hfetched, hobjects] at hkeep
    exact .inr ⟨hnone.symm, hkeep⟩

end Stores

end Services

end Retrace
