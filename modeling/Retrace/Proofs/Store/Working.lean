import Mathlib
import Retrace.World

/-!
# Stores that work

A store works when it holds what was put into it and nothing else, under the texts of keys, and says
so when it is asked (`StoreAccess.Works`). Services put into it only what it does not hold, so what
it holds it goes on holding (`Services.Working.later_load`), and what it holds is never fetched
(`Services.Working.load_of_held`). `Services.Later` states the first of these of two worlds,
together with the order of their times.
-/

namespace Retrace

variable {σ : Type}

/-- A store that does what it is asked: `objects` is what it holds by the texts of keys. -/
structure StoreAccess.Works (store : StoreAccess σ) (objects : σ → String → Option Bytes) :
    Prop where
  get_fst (key : ArtifactKey) (w : σ) : (store.get key w).1 = .ok (objects w key.text)
  get_snd (key : ArtifactKey) (w : σ) : objects (store.get key w).2 = objects w
  put_self (key : ArtifactKey) (data : Bytes) (w : σ) :
    objects (store.put key data w).2 key.text = some data
  put_of_ne (key : ArtifactKey) (data : Bytes) (w : σ) {text : String} (h : text ≠ key.text) :
    objects (store.put key data w).2 text = objects w text

namespace Services

/-- Services with a store that works and a clock that does not run backwards; fetching and reading
the clock leave the store alone. -/
structure Working (services : Services σ) (store : StoreAccess σ)
    (objects : σ → String → Option Bytes) (time : σ → ℕ) : Prop where
  store_eq : services.store = some store
  works : store.Works objects
  objects_fetch (location : String) (w : σ) : objects (services.fetch location w).2 = objects w
  objects_now (w : σ) : objects (services.now w).2 = objects w
  time_le_now (w : σ) : time w ≤ (services.now w).1
  time_now (w : σ) : time w ≤ time (services.now w).2
  time_fetch (location : String) (w : σ) : time w ≤ time (services.fetch location w).2
  time_get (key : ArtifactKey) (w : σ) : time w ≤ time (store.get key w).2
  time_put (key : ArtifactKey) (data : Bytes) (w : σ) : time w ≤ time (store.put key data w).2

/-- A world that may follow another: its time is no earlier, and its store still holds what it
held. -/
structure Later (objects : σ → String → Option Bytes) (time : σ → ℕ) (w w' : σ) : Prop where
  time_le : time w ≤ time w'
  holds {text : String} {data : Bytes} (h : objects w text = some data) :
    objects w' text = some data

variable {services : Services σ} {store : StoreAccess σ} {objects : σ → String → Option Bytes}
  {time : σ → ℕ} {w w' w'' : σ}

/-- A world may follow itself. -/
lemma Later.refl (w : σ) : Later objects time w w :=
  ⟨le_rfl, id⟩

/-- What may follow a later world may follow the earlier one. -/
lemma Later.trans (h : Later objects time w w') (h' : Later objects time w' w'') :
    Later objects time w w'' :=
  ⟨h.time_le.trans h'.time_le, fun hw => h'.holds (h.holds hw)⟩

/-- A world with the same store and no earlier time may follow. -/
lemma Later.of_objects_eq (htime : time w ≤ time w') (hobjects : objects w' = objects w) :
    Later objects time w w' :=
  ⟨htime, fun h => (congrFun hobjects _).trans h⟩

/-- Reading the clock. -/
lemma Working.later_now (working : services.Working store objects time) (w : σ) :
    Later objects time w (services.now w).2 :=
  .of_objects_eq (working.time_now w) (working.objects_now w)

/-- What is stored is what the store holds. -/
lemma Working.stored_eq (working : services.Working store objects time) (key : ArtifactKey)
    (w : σ) : services.stored key w = (objects w key.text, (store.get key w).2) := by
  have hget : store.get key w = (.ok (objects w key.text), (store.get key w).2) :=
    Prod.ext (working.works.get_fst key w) rfl
  rw [stored, working.store_eq]
  dsimp only
  rw [hget]

/-- What the store holds is loaded from it. -/
lemma Working.load_of_held (working : services.Working store objects time) {release : Release}
    {location : String} {data : Bytes}
    (hheld : objects w (release.key location).text = some data) :
    services.load release location w = (.ok data, (store.get (release.key location) w).2) := by
  rw [load, working.stored_eq, hheld]

/-- Asking the store. -/
lemma Working.later_get (working : services.Working store objects time) (key : ArtifactKey)
    (w : σ) : Later objects time w (store.get key w).2 :=
  .of_objects_eq (working.time_get key w) (working.works.get_snd key w)

/-- Fetching. -/
lemma Working.later_fetch (working : services.Working store objects time) (location : String)
    (w : σ) : Later objects time w (services.fetch location w).2 :=
  .of_objects_eq (working.time_fetch location w) (working.objects_fetch location w)

/-- Keeping what the store does not hold. -/
lemma Working.later_keep (working : services.Working store objects time) {key : ArtifactKey}
    (data : Bytes) (hnone : objects w key.text = none) :
    Later objects time w (services.keep key data w) := by
  have hkeep : services.keep key data w = (store.put key data w).2 := by
    rw [keep, working.store_eq]
  rw [hkeep]
  refine ⟨working.time_put key data w, fun {text} {data'} hheld => ?_⟩
  have hne : text ≠ key.text := by
    rintro rfl
    rw [hnone] at hheld
    cases hheld
  rw [working.works.put_of_ne key data w hne]
  exact hheld

/-- What is loaded is in the store afterwards. -/
lemma Working.objects_load (working : services.Working store objects time) {release : Release}
    {location : String} {data : Bytes}
    (hload : (services.load release location w).1 = .ok data) :
    objects (services.load release location w).2 (release.key location).text = some data := by
  cases hobject : objects w (release.key location).text with
  | some data' =>
    rw [working.load_of_held hobject] at hload ⊢
    rw [working.works.get_snd, hobject, Except.ok.inj hload]
  | none =>
    rw [load, working.stored_eq, hobject] at hload ⊢
    dsimp only at hload ⊢
    split at hload
    · cases hload
    · next data' w₂ _ =>
      dsimp only
      rw [keep, working.store_eq]
      dsimp only
      rw [working.works.put_self, Except.ok.inj hload]

/-- Loading puts into the store only what it does not hold. -/
lemma Working.later_load (working : services.Working store objects time) (release : Release)
    (location : String) (w : σ) :
    Later objects time w (services.load release location w).2 := by
  have hget := working.later_get (release.key location) w
  cases hobject : objects w (release.key location).text with
  | some data =>
    rw [working.load_of_held hobject]
    exact hget
  | none =>
    rw [load, working.stored_eq, hobject]
    dsimp only
    set w₁ := (store.get (release.key location) w).2
    have hfetch := hget.trans (working.later_fetch location w₁)
    -- what the store did not hold at first it does not hold after fetching
    have hnone : objects (services.fetch location w₁).2 (release.key location).text = none := by
      rw [working.objects_fetch, working.works.get_snd]
      exact hobject
    split
    · next heq =>
      rw [heq] at hfetch
      exact hfetch
    · next data w₂ heq =>
      rw [heq] at hfetch hnone
      exact hfetch.trans (working.later_keep data hnone)

end Services

namespace World

/-- What the store of a world holds. -/
def storeObjects (w : World) : String → Option Bytes :=
  w.store.objects.get?

/-- The store of the world always works, and its clock moves on. -/
lemma working_services (origin : Origin) (limit : ℕ) :
    (services origin limit (.shared false false)).Working (storeAccess false false)
      storeObjects clock where
  store_eq := rfl
  works :=
    { get_fst := fun _ _ => rfl
      get_snd := fun _ _ => rfl
      put_self := fun key data w => Dictionary.get?_put_self w.store.objects key.text data
      put_of_ne := fun key data w _ h =>
        Dictionary.get?_put_of_ne w.store.objects data (Ne.symm h) }
  objects_fetch := by
    intro location w
    obtain ⟨asked, opened, heq⟩ := exists_fetch_snd_eq origin limit location w
    change (fetch origin limit location w).2.store.objects.get? = _
    rw [heq]
    rfl
  objects_now := fun _ => rfl
  time_le_now := fun _ => le_rfl
  time_now := fun w => Nat.le_succ w.clock
  time_fetch := by
    intro location w
    obtain ⟨asked, opened, heq⟩ := exists_fetch_snd_eq origin limit location w
    change w.clock ≤ (fetch origin limit location w).2.clock
    rw [heq]
  time_get := fun _ _ => le_rfl
  time_put := fun _ _ _ => le_rfl

end World

end Retrace
