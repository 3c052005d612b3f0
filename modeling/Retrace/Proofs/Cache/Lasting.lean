import Mathlib
import Retrace.Proofs.Cache.LeastRecent

/-!
# Maps that forget nothing

A map that forgets does not forget as long as it has room for all the keys that are used and its
entries outlast the readings of the clock (`ExpiringMap.Lasting`). Then looking up finds just the
keys that were put in (`Lasting.get?`), and putting in takes nothing out (`Lasting.insert`): where a
key is new there is room for it, as the keys that are there are among the others.
-/

namespace Retrace

variable {α : Type}

/-- Which names stand in a dictionary once a name has a value. -/
lemma Dictionary.has_put (d : Dictionary α) (key : String) (value : α) (other : String) :
    (d.put key value).has other = (decide (other = key) || d.has other) := by
  rcases eq_or_ne other key with rfl | hne
  · simp [has]
  · simp [has, get?_put_of_ne d value hne.symm, hne]

namespace ExpiringMap

/-- A map with different keys, all of them among some names for which there is room, whose entries
outlast the readings before `stop`, if they are put in at `start` or later. -/
structure Lasting (names : Finset String) (start stop : ℕ) (m : ExpiringMap α) : Prop where
  once : m.entries.Once
  named : ∀ p ∈ m.entries, p.1 ∈ names
  room : names.card ≤ m.capacity
  outlasts : ∀ p ∈ m.entries, stop ≤ p.2.expiresAt
  stop_le : stop ≤ start + m.ttl

variable {names : Finset String} {start stop now : ℕ} {m : ExpiringMap α} {key : String}

/-- The map without entries. -/
lemma lasting_empty {capacity ttl : ℕ} (hroom : names.card ≤ capacity)
    (hstop : stop ≤ start + ttl) :
    (empty capacity ttl : ExpiringMap α).Lasting names start stop where
  once := List.nodup_nil
  named := fun _ hp => absurd hp List.not_mem_nil
  room := hroom
  outlasts := fun _ hp => absurd hp List.not_mem_nil
  stop_le := hstop

/-- Giving a key an entry that lasts. -/
lemma Lasting.put (h : m.Lasting names start stop) (hkey : key ∈ names) {e : Entry α}
    (he : stop ≤ e.expiresAt) {overran : Bool} :
    Lasting names start stop { m with entries := m.entries.put key e, overran } where
  once := h.once.put key e
  named := by
    intro p hp
    rcases Dictionary.mem_of_mem_put hp with rfl | hp
    · exact hkey
    · exact h.named p hp
  room := h.room
  outlasts := by
    intro p hp
    rcases Dictionary.mem_of_mem_put hp with rfl | hp
    · exact he
    · exact h.outlasts p hp
  stop_le := h.stop_le

/-- Looking up finds the keys that are there, and all of them stay there. -/
lemma Lasting.get? (h : m.Lasting names start stop) (hnow : now < stop) (key : String) :
    (m.get? now key).1.isSome = m.entries.has key ∧
      (m.get? now key).2.Lasting names start stop ∧
      ∀ other, (m.get? now key).2.entries.has other = m.entries.has other := by
  rw [ExpiringMap.get?, Dictionary.has]
  cases he : m.entries.get? key with
  | none => exact ⟨rfl, h, fun _ => rfl⟩
  | some e =>
    have hmem := Dictionary.mem_of_get?_eq_some he
    have hlive : e.isLive now = true := by
      have hlate := h.outlasts _ hmem
      rw [Entry.isLive, decide_eq_true_eq]
      exact hnow.trans_le hlate
    simp only [hlive, if_true, Option.isSome_some]
    refine ⟨trivial, h.put (e := { e with lastUsed := now }) (h.named _ hmem) (h.outlasts _ hmem),
      fun other => ?_⟩
    rw [Dictionary.has_put]
    rcases eq_or_ne other key with rfl | hne
    · simp [Dictionary.has, he]
    · simp [hne]

/-- There is room for one more of the names. -/
lemma Lasting.size_lt (h : m.Lasting names start stop) (hkey : key ∈ names)
    (hnew : m.entries.has key = false) : m.size < m.capacity := by
  have hfresh : key ∉ m.entries.map Prod.fst := by
    intro hmem
    obtain ⟨p, hp, rfl⟩ := List.mem_map.mp hmem
    rw [Dictionary.has, Option.isSome_eq_false_iff, Option.isNone_iff_eq_none] at hnew
    exact Dictionary.get?_ne_none_of_mem hp hnew
  have hsub : (key :: m.entries.map Prod.fst).toFinset ⊆ names := by
    intro name hname
    rcases List.mem_cons.mp (List.mem_toFinset.mp hname) with rfl | hmem
    · exact hkey
    · obtain ⟨p, hp, rfl⟩ := List.mem_map.mp hmem
      exact h.named p hp
  have hcard := Finset.card_le_card hsub
  rw [List.toFinset_card_of_nodup (List.nodup_cons.mpr ⟨hfresh, h.once⟩), List.length_cons,
    List.length_map] at hcard
  exact hcard.trans h.room

/-- Putting in one of the names takes nothing out. -/
lemma Lasting.insert (h : m.Lasting names start stop) (roomAt : ℕ) (hnow : start ≤ now)
    (hkey : key ∈ names) (value : α) :
    (m.insert roomAt now key value).Lasting names start stop ∧
      ∀ other, (m.insert roomAt now key value).entries.has other =
        (decide (other = key) || m.entries.has other) := by
  have hcapacity : m.capacity ≠ 0 := by
    have hcard := Finset.card_pos.mpr ⟨key, hkey⟩
    have hroom := h.room
    omega
  have hroom : m.lacksRoom key = false := by
    rw [lacksRoom]
    cases hhas : m.entries.has key with
    | true => rfl
    | false =>
      have hlt := h.size_lt hkey hhas
      simpa using hlt
  have hstop := h.stop_le
  rw [ExpiringMap.insert, if_neg hcapacity, hroom]
  simp only [Bool.false_eq_true, if_false]
  exact ⟨h.put hkey (by dsimp only; omega), fun other => Dictionary.has_put _ _ _ other⟩

end ExpiringMap

end Retrace
