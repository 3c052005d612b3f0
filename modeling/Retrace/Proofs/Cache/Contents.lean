import Mathlib
import Retrace.Cache.Basic

/-!
# What a cache keeps

Nothing comes out of a cache but what was put in, and what is put in may be forgotten again at any
time. So a property of keys and values that holds of every value put in holds of every value that
comes out, whatever was hit, missed, expired or pushed out in between. `ExpiringMap.Holds` states
such a property of the entries that are still there at a time; every operation keeps it, and
`Cache.Holds` states one for each of the two maps of a cache.

Entries that have expired do not count, although they may still be there: they are never served
again, as time does not run backwards.
-/

namespace Retrace

namespace ExpiringMap

variable {α : Type} {since now : ℕ} {P : String → α → Prop} {m : ExpiringMap α}

/-- Every entry that is live at the time `since` has the property `P`. -/
def Holds (since : ℕ) (P : String → α → Prop) (m : ExpiringMap α) : Prop :=
  ∀ p ∈ m.entries, p.2.isLive since → P p.1 p.2.value

/-- An entry that is live at a time was live before. -/
lemma isLive_of_le {e : Entry α} (hle : since ≤ now) (h : e.isLive now) : e.isLive since := by
  simp only [Entry.isLive, decide_eq_true_eq] at h ⊢
  omega

/-- The map without entries has every property. -/
lemma holds_empty (capacity ttl : ℕ) : (empty capacity ttl : ExpiringMap α).Holds since P := by
  intro p hp
  exact absurd hp List.not_mem_nil

/-- A map with fewer entries has the properties that it had. -/
lemma Holds.of_subset {m' : ExpiringMap α} (h : m.Holds since P)
    (hsub : ∀ p ∈ m'.entries, p ∈ m.entries) : m'.Holds since P :=
  fun p hp => h p (hsub p hp)

/-- What is true of the live entries at one time is true of those at a later time. -/
lemma Holds.later {since' : ℕ} (h : m.Holds since P) (hle : since ≤ since') :
    m.Holds since' P :=
  fun p hp hlive => h p hp (isLive_of_le hle hlive)

/-- A weaker property holds as well. -/
lemma Holds.imp {Q : String → α → Prop} (h : m.Holds since P)
    (himp : ∀ key value, P key value → Q key value) : m.Holds since Q :=
  fun p hp hlive => himp p.1 p.2.value (h p hp hlive)

/-! ### Looking up -/

/-- A value that comes out has the property. -/
lemma Holds.of_get? {key : String} {value : α} (h : m.Holds since P) (hle : since ≤ now)
    (hget : (m.get? now key).1 = some value) : P key value := by
  rw [get?] at hget
  split at hget
  · cases hget
  · next e he =>
    split at hget
    · next hlive =>
      obtain rfl := Option.some.inj hget
      exact h _ (Dictionary.mem_of_get?_eq_some he) (isLive_of_le hle hlive)
    · cases hget

/-- Looking up keeps the property: it takes an entry out or notes its use. -/
lemma Holds.get? (h : m.Holds since P) (now : ℕ) (key : String) :
    (m.get? now key).2.Holds since P := by
  rw [ExpiringMap.get?]
  split
  · exact h
  · next e he =>
    split
    · intro p hp hlive
      rcases Dictionary.mem_of_mem_put hp with rfl | hmem
      · exact h (key, e) (Dictionary.mem_of_get?_eq_some he) hlive
      · exact h p hmem hlive
    · exact h.of_subset fun p hp => Dictionary.mem_of_mem_remove hp

/-! ### Putting in -/

/-- Making room only takes entries out. -/
lemma makeRoom_sublist (m : ExpiringMap α) (now : ℕ) :
    (m.makeRoom now).entries.Sublist m.entries := by
  have hexpired : (m.dropExpired now).entries.Sublist m.entries := List.filter_sublist
  rw [makeRoom]
  split
  · rw [dropOldest]
    split
    · exact List.filter_sublist.trans hexpired
    · exact hexpired
  · exact hexpired

/-- Putting in a value with the property keeps it. -/
lemma Holds.insert {key : String} {value : α} (h : m.Holds since P) (roomAt now : ℕ)
    (hvalue : P key value) : (m.insert roomAt now key value).Holds since P := by
  rw [ExpiringMap.insert]
  split
  · exact h
  · intro p hp hlive
    rcases Dictionary.mem_of_mem_put hp with rfl | hmem
    · exact hvalue
    · refine h p ?_ hlive
      split at hmem
      · exact (makeRoom_sublist m roomAt).subset hmem
      · exact hmem

end ExpiringMap

namespace Cache

variable {since now : ℕ} {S : String → Bytes → Prop} {M : String → SourceMap → Prop} {c : Cache}

/-- Every live content of a generated file has the property `S` and every live source map has the
property `M`. -/
structure Holds (since : ℕ) (S : String → Bytes → Prop) (M : String → SourceMap → Prop)
    (c : Cache) : Prop where
  sources : c.sources.Holds since S
  maps : c.maps.Holds since M

/-- A new cache has every property. -/
lemma holds_make (capacity ttlSecs : ℕ) : (make capacity ttlSecs).Holds since S M :=
  ⟨ExpiringMap.holds_empty _ _, ExpiringMap.holds_empty _ _⟩

/-- Looking for the content of a generated file keeps the properties. -/
lemma Holds.source? (h : c.Holds since S M) (now : ℕ) (location : String) :
    (c.source? now location).2.Holds since S M :=
  ⟨h.sources.get? now location, h.maps⟩

/-- Keeping the content of a generated file keeps the properties. -/
lemma Holds.keepSource {location : String} {data : Bytes} (h : c.Holds since S M)
    (roomAt now : ℕ) (hdata : S location data) :
    (c.keepSource now location data roomAt).Holds since S M :=
  ⟨h.sources.insert roomAt now hdata, h.maps⟩

/-- Looking for a source map keeps the properties. -/
lemma Holds.map? (h : c.Holds since S M) (now : ℕ) (key : String) :
    (c.map? now key).2.Holds since S M :=
  ⟨h.sources, h.maps.get? now key⟩

/-- Keeping a source map keeps the properties. -/
lemma Holds.keepMap {key : String} {map : SourceMap} (h : c.Holds since S M) (roomAt now : ℕ)
    (hmap : M key map) : (c.keepMap now key map roomAt).Holds since S M :=
  ⟨h.sources, h.maps.insert roomAt now hmap⟩

end Cache

end Retrace
