import Mathlib
import Retrace.Proofs.Cache.Changes

/-!
# Times that the clock does not have

What a map takes in expires later by its time to live, at a time that the clock may not have. The
map notes that it was given such an entry, and never forgets it (`ExpiringMap.overran_insert`).

Two kinds of caches are simple. One without any room takes in nothing, so it never notes anything
(`Cache.invariant_closed`). One whose time to live is as long as the clock itself has no time for
anything: it notes the first content that it takes in, and until then it has none
(`Cache.invariant_overlong`).
-/

namespace Retrace

namespace ExpiringMap

variable {α : Type}

/-- Making room is no matter of the clock. -/
lemma overran_makeRoom (m : ExpiringMap α) (now : ℕ) : (m.makeRoom now).overran = m.overran := by
  rw [makeRoom]
  split
  · rw [dropOldest]
    split <;> rfl
  · rfl

/-- Looking up changes neither the settings nor what is noted of the clock. -/
lemma get?_settings (m : ExpiringMap α) (now : ℕ) (key : String) :
    (m.get? now key).2.capacity = m.capacity ∧ (m.get? now key).2.ttl = m.ttl ∧
      (m.get? now key).2.overran = m.overran := by
  rw [get?]
  split
  · exact ⟨rfl, rfl, rfl⟩
  · split <;> exact ⟨rfl, rfl, rfl⟩

/-- Putting in leaves the settings. -/
lemma insert_settings (m : ExpiringMap α) (roomAt now : ℕ) (key : String) (value : α) :
    (m.insert roomAt now key value).capacity = m.capacity ∧
      (m.insert roomAt now key value).ttl = m.ttl := by
  rw [insert]
  split
  · exact ⟨rfl, rfl⟩
  · dsimp only
    split
    · exact makeRoom_settings m roomAt
    · exact ⟨rfl, rfl⟩

/-- A map that takes something in notes if the clock has no time for it to expire at. -/
lemma overran_insert (m : ExpiringMap α) (roomAt now : ℕ) (key : String) (value : α) :
    (m.insert roomAt now key value).overran = true ↔
      m.overran = true ∨ m.capacity ≠ 0 ∧ clockEnd ≤ now + m.ttl := by
  rw [insert]
  split
  · next hclosed => simp [hclosed]
  · next hopen =>
    dsimp only
    have hroom : ∀ m' : ExpiringMap α, m'.overran = m.overran → m'.ttl = m.ttl →
        ((m'.overran || decide (clockEnd ≤ now + m'.ttl)) = true ↔
          m.overran = true ∨ m.capacity ≠ 0 ∧ clockEnd ≤ now + m.ttl) := by
      intro m' hoverran httl
      rw [hoverran, httl, Bool.or_eq_true, decide_eq_true_eq]
      simp [hopen]
    split
    · exact hroom _ (overran_makeRoom m roomAt) (makeRoom_settings m roomAt).2
    · exact hroom m rfl rfl

end ExpiringMap

namespace Cache

variable {c : Cache} {now : ℕ}

/-- Looking for the content of a generated file notes nothing. -/
lemma overran_source? (c : Cache) (now : ℕ) (location : String) :
    (c.source? now location).2.overran = c.overran := by
  change ((c.sources.get? now location).2.overran || c.maps.overran) = _
  rw [(c.sources.get?_settings now location).2.2, overran]

/-- Looking for a map notes nothing. -/
lemma overran_map? (c : Cache) (now : ℕ) (key : String) :
    (c.map? now key).2.overran = c.overran := by
  change (c.sources.overran || (c.maps.get? now key).2.overran) = _
  rw [(c.maps.get?_settings now key).2.2, overran]

/-- Keeping the content of a generated file. -/
lemma overran_keepSource (c : Cache) (roomAt now : ℕ) (location : String) (data : Bytes) :
    (c.keepSource now location data roomAt).overran = true ↔
      c.overran = true ∨ c.sources.capacity ≠ 0 ∧ ExpiringMap.clockEnd ≤ now + c.sources.ttl := by
  change ((c.sources.insert roomAt now location data).overran || c.maps.overran) = true ↔ _
  rw [Bool.or_eq_true, ExpiringMap.overran_insert, overran, Bool.or_eq_true]
  tauto

/-- Keeping a map. -/
lemma overran_keepMap (c : Cache) (roomAt now : ℕ) (key : String) (map : SourceMap) :
    (c.keepMap now key map roomAt).overran = true ↔
      c.overran = true ∨ c.maps.capacity ≠ 0 ∧ ExpiringMap.clockEnd ≤ now + c.maps.ttl := by
  change (c.sources.overran || (c.maps.insert roomAt now key map).overran) = true ↔ _
  rw [Bool.or_eq_true, ExpiringMap.overran_insert, overran, Bool.or_eq_true]
  tauto

/-! ### Caches without room -/

/-- A cache with room for contents, which expire at no time that the clock has. As long as it has
noted nothing, it has no contents. -/
structure Overlong (c : Cache) : Prop where
  room : c.sources.capacity ≠ 0
  long : ExpiringMap.clockEnd ≤ c.sources.ttl
  empty : c.overran = true ∨ c.sources.entries = []

/-- A new cache with room and such a time to live. -/
lemma overlong_make {capacity ttlSecs : ℕ} (hroom : capacity ≠ 0)
    (hlong : ExpiringMap.clockEnd ≤ ttlSecs * unitsPerSecond) : (make capacity ttlSecs).Overlong :=
  ⟨hroom, hlong, .inr rfl⟩

/-- Such a cache notes the first content that it takes in. -/
lemma Overlong.overran_keepSource (h : c.Overlong) (roomAt now : ℕ) (location : String)
    (data : Bytes) : (c.keepSource now location data roomAt).overran = true :=
  (Cache.overran_keepSource c roomAt now location data).mpr
    (.inr ⟨h.room, h.long.trans (Nat.le_add_left _ _)⟩)

/-- Such a cache stays so. -/
lemma invariant_overlong : Invariant Overlong where
  source? {c} h now location := by
    obtain ⟨hcapacity, httl, -⟩ := c.sources.get?_settings now location
    refine ⟨fun hzero => h.room (hcapacity.symm.trans hzero), h.long.trans httl.ge, ?_⟩
    rw [overran_source?]
    refine h.empty.imp_right fun hempty => ?_
    change (c.sources.get? now location).2.entries = []
    simp [ExpiringMap.get?, hempty]
  keepSource {c} h roomAt now location data := by
    obtain ⟨hcapacity, httl⟩ := c.sources.insert_settings roomAt now location data
    exact ⟨fun hzero => h.room (hcapacity.symm.trans hzero), h.long.trans httl.ge,
      .inl (h.overran_keepSource roomAt now location data)⟩
  map? {c} h now key := by
    refine ⟨h.room, h.long, ?_⟩
    rw [overran_map?]
    exact h.empty
  keepMap {c} h roomAt now key map := by
    refine ⟨h.room, h.long, h.empty.imp_left fun hover => ?_⟩
    exact (overran_keepMap c roomAt now key map).mpr (.inl hover)

/-- What has been noted is never forgotten. -/
lemma invariant_overran : Invariant fun c => c.overran = true where
  source? {c} h now location := (c.overran_source? now location).trans h
  keepSource {c} h roomAt now location data :=
    (c.overran_keepSource roomAt now location data).mpr (.inl h)
  map? {c} h now key := (c.overran_map? now key).trans h
  keepMap {c} h roomAt now key map := (c.overran_keepMap roomAt now key map).mpr (.inl h)

end Cache

end Retrace
