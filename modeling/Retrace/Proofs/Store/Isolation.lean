import Mathlib
import Retrace.Proofs.Artifact.KeyText
import Retrace.Proofs.Tracer.WriteBack

/-!
# Projects that share a store

Several projects may keep their artifacts in one store. Whatever is done under other projects, be it
objects that are put in or stack traces that are traced, by any tracers and fetchers, a project
finds its part of the store as it was (`get?_has_of_other_projects`). It does not matter which
versions and locations the others use.

This rests on two facts. The text of a key tells its project, since it starts with the number of the
project and no number has a slash (`ArtifactKey.project_eq_of_text_eq`). And a call writes under its
own release only: the store grows by what was received, and all of it was received under keys of
that release (`SameFor.of_grows`).
-/

namespace Retrace

variable {σ κ : Type}

/-! ### Stores in memory -/

/-- A store that is reached as it stands in memory: `inMemory` is what it is in a world. -/
structure StoreAccess.Backed (store : StoreAccess σ) (inMemory : σ → Store) : Prop where
  get_fst (key : ArtifactKey) (w : σ) : (store.get key w).1 = .ok ((inMemory w).get? key)
  get_snd (key : ArtifactKey) (w : σ) : inMemory (store.get key w).2 = inMemory w
  put (key : ArtifactKey) (data : Bytes) (w : σ) :
    inMemory (store.put key data w).2 = (inMemory w).put key data

/-- Services that use such a store or none: fetching and reading the clock leave it alone. -/
structure Services.SharesMemory (services : Services σ) (store : StoreAccess σ)
    (inMemory : σ → Store) : Prop where
  store_eq : services.store = none ∨ services.store = some store
  fetch (location : String) (w : σ) : inMemory (services.fetch location w).2 = inMemory w
  now (w : σ) : inMemory (services.now w).2 = inMemory w

section Backed

variable {store : StoreAccess σ} {inMemory : σ → Store}

/-- A store in memory works. -/
lemma StoreAccess.Backed.works (backed : store.Backed inMemory) :
    store.Works fun w => (inMemory w).objects.get? where
  get_fst := backed.get_fst
  get_snd := fun key w => by rw [backed.get_snd]
  put_self := fun key data w => by
    rw [backed.put]
    exact Dictionary.get?_put_self _ key.text data
  put_of_ne := fun key data w text h => by
    rw [backed.put]
    exact Dictionary.get?_put_of_ne _ data (Ne.symm h)

/-- Services that use a store in memory have a share in a store that works. -/
lemma Services.SharesMemory.shares {services : Services σ} (backed : store.Backed inMemory)
    (shares : services.SharesMemory store inMemory) (hsome : services.store = some store) :
    services.Shares store fun w => (inMemory w).objects.get? where
  store_eq := hsome
  works := backed.works
  objects_fetch := fun location w => by rw [shares.fetch]
  objects_now := fun w => by rw [shares.now]

end Backed

/-! ### The part of a project -/

/-- Two stores have the same objects under the keys of a project. -/
def SameFor (project : ProjectId) (store store' : Store) : Prop :=
  ∀ key : ArtifactKey, key.project = project → store'.get? key = store.get? key

section SameFor

variable {project : ProjectId} {store store' store'' : Store}

lemma SameFor.refl (project : ProjectId) (store : Store) : SameFor project store store :=
  fun _ _ => rfl

lemma SameFor.trans (h : SameFor project store store') (h' : SameFor project store' store'') :
    SameFor project store store'' :=
  fun key hkey => (h' key hkey).trans (h key hkey)

/-- The same objects are there. -/
lemma SameFor.has_eq (h : SameFor project store store') {key : ArtifactKey}
    (hkey : key.project = project) : store'.has key = store.has key :=
  congrArg Option.isSome (h key hkey)

/-- Putting in an object of another project. -/
lemma sameFor_put {key : ArtifactKey} (hkey : key.project ≠ project) (data : Bytes) :
    SameFor project store (store.put key data) := by
  intro other hother
  have htext : key.text ≠ other.text := by
    intro h
    exact hkey ((ArtifactKey.project_eq_of_text_eq h).trans hother)
  exact Dictionary.get?_put_of_ne _ data htext

/-- A store that grows by what was received under keys of other projects. -/
lemma SameFor.of_grows {inMemory : σ → Store} {w w' : σ} {received : List (ArtifactKey × Bytes)}
    (grows : Grows (fun w => (inMemory w).objects.get?) w received w')
    (hreceived : ∀ p ∈ received, p.1.project ≠ project) :
    SameFor project (inMemory w) (inMemory w') := by
  intro key hkey
  have hnot : ∀ data, ¬ ∃ other, (other, data) ∈ received ∧ other.text = key.text := by
    rintro data ⟨other, hmem, htext⟩
    exact hreceived (other, data) hmem ((ArtifactKey.project_eq_of_text_eq htext).trans hkey)
  refine Option.ext fun data => ?_
  have hholds : ((inMemory w').objects.get? key.text = some data ↔
      (inMemory w).objects.get? key.text = some data ∨
        ∃ other, (other, data) ∈ received ∧ other.text = key.text) := grows.holds_iff
  rw [or_iff_left (hnot data)] at hholds
  exact hholds

end SameFor

namespace Tracer

/-! ### What is done with a shared store -/

/-- What is received under a release is received under keys of its project. -/
lemma project_of_mem_received {t : Tracer σ} {release : Release} {fs : List StackFrame}
    {s : State σ} {p : ArtifactKey × Bytes} (h : p ∈ t.received release fs s) :
    p.1.project = release.project := by
  rw [received, List.mem_filterMap] at h
  obtain ⟨⟨location, answer⟩, -, hp⟩ := h
  cases answer with
  | error e => cases hp
  | ok data =>
    obtain rfl : (release.key location, data) = p := Option.some.inj hp
    rfl

/-- What may be done with a store that several tracers share: an object is put in under a key, or
one of the tracers makes a call. -/
inductive SharedStep (κ σ : Type)
  | put (key : ArtifactKey) (data : Bytes)
  | call (call : PeerCall κ σ)

/-- The project under which a step is made. -/
def SharedStep.project : SharedStep κ σ → ProjectId
  | .put key _ => key.project
  | .call made => made.release.project

variable [DecidableEq κ]

/-- What a step leaves. -/
def SharedStep.after (store : StoreAccess σ) (s : PeerState κ σ) : SharedStep κ σ → PeerState κ σ
  | .put key data => { s with world := (store.put key data s.world).2 }
  | .call made => made.after s

/-- What steps leave, one after the other. -/
def afterSharedSteps (store : StoreAccess σ) (steps : List (SharedStep κ σ)) (s : PeerState κ σ) :
    PeerState κ σ :=
  steps.foldl (SharedStep.after store) s

section Steps

variable {store : StoreAccess σ} {inMemory : σ → Store} {project : ProjectId}

/-- A call of a tracer without a store leaves the one in memory as it is. -/
lemma PeerCall.inMemory_after {call : PeerCall κ σ}
    (shares : call.tracer.services.SharesMemory store inMemory)
    (hnone : call.tracer.services.store = none) (s : PeerState κ σ) :
    inMemory (call.after s).world = inMemory s.world := by
  obtain ⟨⟨release, stack⟩, tracer, cache⟩ := call
  cases stack with
  | none => rfl
  | some fs =>
    have keeps : tracer.services.Keeps fun w => inMemory w = inMemory s.world :=
      .of_store_eq_none hnone fun location _ hw => (shares.fetch location _).trans hw
    have hpath := path_frames tracer release fs (s.of cache)
    exact (hpath.forall_world keeps (fun w hw => (shares.now w).trans hw) rfl).2

/-- A step under another project leaves the part of a project as it is. -/
lemma SharedStep.sameFor (backed : store.Backed inMemory) {step : SharedStep κ σ}
    (shares : ∀ call, step = .call call → call.tracer.services.SharesMemory store inMemory)
    (hproject : step.project ≠ project) (s : PeerState κ σ) :
    SameFor project (inMemory s.world) (inMemory (step.after store s).world) := by
  cases step with
  | put key data =>
    rw [SharedStep.after, backed.put]
    exact sameFor_put hproject data
  | call call =>
    have hshares := shares call rfl
    rcases hshares.store_eq with hnone | hsome
    · rw [SharedStep.after, PeerCall.inMemory_after hshares hnone]
      exact .refl project (inMemory s.world)
    · have grows := PeerCall.grows (hshares.shares backed hsome) s
      refine .of_grows grows fun p hp => ?_
      rw [project_of_mem_received hp]
      exact hproject

/-- Steps under other projects leave the part of a project as it is. -/
lemma sameFor_afterSharedSteps (backed : store.Backed inMemory) {steps : List (SharedStep κ σ)}
    (shares : ∀ call, .call call ∈ steps → call.tracer.services.SharesMemory store inMemory)
    (hproject : ∀ step ∈ steps, step.project ≠ project) (s : PeerState κ σ) :
    SameFor project (inMemory s.world) (inMemory (afterSharedSteps store steps s).world) := by
  induction steps generalizing s with
  | nil => exact .refl project (inMemory s.world)
  | cons step rest ih =>
    have hstep := SharedStep.sameFor backed
      (fun call hcall => shares call (hcall ▸ List.mem_cons_self))
      (hproject step List.mem_cons_self) s
    have hrest := ih (fun call hcall => shares call (List.mem_cons_of_mem step hcall))
      (fun other hother => hproject other (List.mem_cons_of_mem step hother)) (step.after store s)
    exact hstep.trans hrest

/-- **Projects are kept apart.** Objects are put into a store in memory and calls are made by
tracers that use it or none, all of this under other projects than one. Then the store answers for
every key of this one project, whatever its version and location, as it did before, whether it is
asked for the object or whether it has one. -/
theorem get?_has_of_other_projects (backed : store.Backed inMemory) (project : ProjectId)
    (steps : List (SharedStep κ σ))
    (shares : ∀ call, .call call ∈ steps → call.tracer.services.SharesMemory store inMemory)
    (hproject : ∀ step ∈ steps, step.project ≠ project) (s : PeerState κ σ) (key : ArtifactKey)
    (hkey : key.project = project) :
    let before := inMemory s.world
    let after := inMemory (afterSharedSteps store steps s).world
    after.get? key = before.get? key ∧ after.has key = before.has key := by
  intro before after
  have hsame := sameFor_afterSharedSteps backed shares hproject s
  exact ⟨hsame key hkey, hsame.has_eq hkey⟩

end Steps

end Tracer

/-! ### A project beside others -/

namespace World

/-- The store of the world stands in memory. -/
lemma backed_storeAccess : (storeAccess false false).Backed World.store where
  get_fst := fun _ _ => rfl
  get_snd := fun _ _ => rfl
  put := fun _ _ _ => rfl

/-- The services of the world share its store. -/
lemma sharesMemory_services (origin : Origin) (limit : ℕ) :
    (services origin limit (.shared false false)).SharesMemory (storeAccess false false)
      World.store where
  store_eq := .inr rfl
  fetch := by
    intro location w
    obtain ⟨asked, opened, heq⟩ := exists_fetch_snd_eq origin limit location w
    change (fetch origin limit location w).2.store = w.store
    rw [heq]
  now := fun _ => rfl

end World

namespace Tracer

/-- A world with a file and its map in memory, and with an object of the first project in the
store. -/
def ownedByFirst : PeerState Bool World :=
  ⟨fun _ => .make 256 3600, { fromMemory with store := ⟨[("1/1/disk/rel/app.js", [1])]⟩ }⟩

/-- Other projects put in an object whose version holds the key of the first, one whose number is
that of the first with a sign, and they trace the file. -/
def doneByOthers : List (SharedStep Bool World) :=
  [.put (.make ⟨⟨11⟩, some "1/1/disk/rel"⟩ "app.js") [2],
    .put (.make ⟨⟨-1⟩, some "1"⟩ "app.js") [3],
    .call ⟨⟨⟨⟨2⟩, some "1"⟩, some [firstPlace]⟩, sharing, true⟩]

/-- The first project still finds its object, and nothing else. -/
theorem first_beside_others :
    let after := (afterSharedSteps (World.storeAccess false false) doneByOthers ownedByFirst).world
    let key (location : String) := ArtifactKey.make (versioned "1") location
    after.store.get? (key "app.js") = some [1] ∧ after.store.has (key "app.js.map") = false := by
  intro after key
  have shares : ∀ call : PeerCall Bool World, .call call ∈ doneByOthers →
      call.tracer.services.SharesMemory (World.storeAccess false false) World.store := by
    intro call hcall
    simp only [doneByOthers, List.mem_cons, List.not_mem_nil, or_false, reduceCtorEq, false_or]
      at hcall
    cases hcall
    exact World.sharesMemory_services .memory Settings.default.maxArtifactBytes
  have hproject : ∀ step ∈ doneByOthers, step.project ≠ ⟨1⟩ := by
    simp only [doneByOthers, List.forall_mem_cons]
    exact ⟨by decide, by decide, by decide, by simp⟩
  have hkept := get?_has_of_other_projects World.backed_storeAccess ⟨1⟩ doneByOthers shares hproject
    ownedByFirst
  refine ⟨(hkept (key "app.js") rfl).1.trans ?_, (hkept (key "app.js.map") rfl).2.trans ?_⟩
  · cbv
  · cbv

end Tracer

end Retrace
