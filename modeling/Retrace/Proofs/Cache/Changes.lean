import Mathlib
import Retrace.Cache.Basic
import Retrace.Proofs.Cache.Contents
import Retrace.Proofs.Cache.LeastRecent

/-!
# What one use of a map changes

Each use of a map that forgets is about one key. What it does to the entries of the others is
little. Looking a key up marks its entry as used (`Marks`) or, where nothing is found, takes out at
most an entry that has expired (`Sheds`). Putting a value in gives the key a new entry. If there is
no room for it, this takes out entries that have expired and, in a map that is full of others, the
one that was used longest ago (`TakesIn`).

All of this is said of what the keys are found with, which tells everything about a map in which
each key stands once. Whether a time was too large for the clock is no matter of a key, and left
out. `Cache.Once` states this of both maps of a cache; it is one of the properties
that every use keeps (`Cache.Invariant`).
-/

namespace Retrace

namespace ExpiringMap

variable {α : Type} {roomAt now : ℕ} {m : ExpiringMap α} {key : String} {value : α}

/-! ### Looking up -/

/-- From `m` to `m'` nothing has changed but that entries may be gone that had expired at `now`. -/
structure Sheds (now : ℕ) (m m' : ExpiringMap α) : Prop where
  capacity_eq : m'.capacity = m.capacity
  ttl_eq : m'.ttl = m.ttl
  was {key : String} {e : Entry α} (h : m'.entries.get? key = some e) :
    m.entries.get? key = some e
  stays {key : String} {e : Entry α} (h : m.entries.get? key = some e) (hlive : e.isLive now) :
    m'.entries.get? key = some e

/-- From `m` to `m'` nothing has changed but that the entry of a key, which holds the value and had
not expired, is marked as used at `now`. -/
structure Marks (now : ℕ) (key : String) (value : α) (m m' : ExpiringMap α) : Prop where
  capacity_eq : m'.capacity = m.capacity
  ttl_eq : m'.ttl = m.ttl
  marked : ∃ e, m.entries.get? key = some e ∧ e.value = value ∧ e.isLive now ∧
    m'.entries.get? key = some { e with lastUsed := now }
  same {other : String} (hne : other ≠ key) : m'.entries.get? other = m.entries.get? other

/-- A map from which nothing is gone. -/
lemma Sheds.refl (now : ℕ) (m : ExpiringMap α) : m.Sheds now m :=
  ⟨rfl, rfl, id, fun h _ => h⟩

/-- A key that is not found has no entry afterwards, and this is all that may have changed. -/
lemma sheds_of_missed (h : (m.get? now key).1 = none) :
    m.Sheds now (m.get? now key).2 ∧ (m.get? now key).2.entries.get? key = none := by
  rw [get?] at h ⊢
  cases he : m.entries.get? key with
  | none => exact ⟨.refl now m, he⟩
  | some e =>
    rw [he] at h
    dsimp only at h ⊢
    split at h
    · cases h
    · next hlive =>
      rw [if_neg hlive]
      have hnone : (m.entries.remove key).get? key = none := by
        by_contra hfound
        obtain ⟨e', he'⟩ := Option.ne_none_iff_exists'.mp hfound
        have hmem := Dictionary.mem_of_get?_eq_some he'
        exact of_decide_eq_true (List.mem_filter.mp hmem).2 rfl
      refine ⟨⟨rfl, rfl, ?_, ?_⟩, hnone⟩
      · intro other e' he'
        have hne : other ≠ key := by
          rintro rfl
          rw [hnone] at he'
          cases he'
        exact (Dictionary.get?_remove_of_ne hne).symm.trans he'
      · intro other e' he' hlive'
        have hne : other ≠ key := by
          rintro rfl
          obtain rfl := Option.some.inj (he.symm.trans he')
          exact hlive hlive'
        exact (Dictionary.get?_remove_of_ne hne).trans he'

/-- A key that is found has its entry marked. -/
lemma marks_of_found (h : (m.get? now key).1 = some value) :
    m.Marks now key value (m.get? now key).2 := by
  rw [get?] at h ⊢
  cases he : m.entries.get? key with
  | none =>
    rw [he] at h
    cases h
  | some e =>
    rw [he] at h
    dsimp only at h ⊢
    split at h
    · next hlive =>
      rw [if_pos hlive]
      exact
        { capacity_eq := rfl
          ttl_eq := rfl
          marked := ⟨e, he, Option.some.inj h, hlive, Dictionary.get?_put_self _ _ _⟩
          same := fun hne => Dictionary.get?_put_of_ne _ _ (Ne.symm hne) }
    · cases h

/-- A key without an entry is not found. -/
lemma get?_fst_of_none (h : m.entries.get? key = none) (now : ℕ) : (m.get? now key).1 = none := by
  rw [get?, h]

/-- A key is found as long as its entry has not expired. -/
lemma get?_fst_of_isLive {e : Entry α} (h : m.entries.get? key = some e) (hlive : e.isLive now) :
    (m.get? now key).1 = some e.value := by
  rw [get?, h]
  simp only [hlive, if_true]

/-! ### Putting in -/

/-- An entry that has to make room at `now`: the map is full of entries that have not expired, and
this one of them was used longest ago. -/
structure MakesRoom (now : ℕ) (m : ExpiringMap α) (e : Entry α) : Prop where
  full : m.capacity ≤ (m.dropExpired now).size
  oldest {other : String} {e' : Entry α} (h : m.entries.get? other = some e')
    (hlive : e'.isLive now) : e.lastUsed ≤ e'.lastUsed

/-- From `m` to `m'` a key is given a value at `now`, unless the map has no room at all. Of the
other entries only such are gone that had expired at `roomAt`, and one that had to make room. -/
structure TakesIn (roomAt now : ℕ) (key : String) (value : α) (m m' : ExpiringMap α) : Prop where
  capacity_eq : m'.capacity = m.capacity
  ttl_eq : m'.ttl = m.ttl
  unless_closed (h : m.capacity ≠ 0) : m'.entries.get? key = some ⟨value, now, now + m.ttl⟩
  of_closed (h : m.capacity = 0) : m' = m
  was {other : String} {e : Entry α} (hne : other ≠ key) (h : m'.entries.get? other = some e) :
    m.entries.get? other = some e
  stays : ∃ victim, ∀ other e, other ≠ key → m.entries.get? other = some e → e.isLive roomAt →
    m'.entries.get? other = some e ∨ other = victim ∧ m.MakesRoom roomAt e

/-- What is found in a map without what has expired. -/
lemma get?_dropExpired (honce : m.entries.Once) {e : Entry α} :
    (m.dropExpired now).entries.get? key = some e ↔
      m.entries.get? key = some e ∧ e.isLive now = true := by
  have honce' : (m.dropExpired now).entries.Once :=
    (List.filter_sublist.map Prod.fst).nodup honce
  rw [Dictionary.get?_eq_some_iff honce', Dictionary.get?_eq_some_iff honce]
  exact List.mem_filter

/-- Making room leaves the settings. -/
lemma makeRoom_settings (m : ExpiringMap α) (now : ℕ) :
    (m.makeRoom now).capacity = m.capacity ∧ (m.makeRoom now).ttl = m.ttl := by
  rw [makeRoom]
  split
  · rw [dropOldest]
    split <;> exact ⟨rfl, rfl⟩
  · exact ⟨rfl, rfl⟩

/-- Taking out the oldest entry leaves the others, and none of them was used before it. -/
lemma exists_victim_dropOldest (honce : m.entries.Once) :
    ∃ victim, ∀ other e, m.entries.get? other = some e →
      m.dropOldest.entries.get? other = some e ∨
        other = victim ∧ ∀ p ∈ m.entries, e.lastUsed ≤ p.2.lastUsed := by
  by_cases hnil : m.entries = []
  · refine ⟨"", fun other e h => ?_⟩
    rw [hnil] at h
    cases h
  · obtain ⟨victim, hmem, holdest, hle⟩ := exists_oldest?_eq hnil
    have hdrop : m.dropOldest.entries = m.entries.remove victim.1 := by
      rw [dropOldest, holdest]
    refine ⟨victim.1, fun other e h => ?_⟩
    by_cases hother : other = victim.1
    · right
      have hvictim : m.entries.get? victim.1 = some victim.2 :=
        (Dictionary.get?_eq_some_iff honce).mpr hmem
      rw [hother, hvictim] at h
      obtain rfl := Option.some.inj h
      exact ⟨hother, hle⟩
    · left
      rw [hdrop, Dictionary.get?_remove_of_ne hother]
      exact h

/-- Making room takes out what has expired, and at most one other entry, which has to make room. -/
lemma exists_victim_makeRoom (honce : m.entries.Once) (now : ℕ) :
    ∃ victim, ∀ other e, m.entries.get? other = some e → e.isLive now →
      (m.makeRoom now).entries.get? other = some e ∨ other = victim ∧ m.MakesRoom now e := by
  have hlive : ∀ {other e}, m.entries.get? other = some e → e.isLive now →
      (m.dropExpired now).entries.get? other = some e := fun h hlive =>
    (get?_dropExpired honce).mpr ⟨h, hlive⟩
  have hcapacity : (m.dropExpired now).capacity = m.capacity := rfl
  rw [makeRoom]
  simp only [hcapacity]
  by_cases hfull : m.capacity ≤ (m.dropExpired now).size
  · have honce' : (m.dropExpired now).entries.Once :=
      (List.filter_sublist.map Prod.fst).nodup honce
    obtain ⟨victim, hvictim⟩ := exists_victim_dropOldest honce'
    refine ⟨victim, fun other e h he => ?_⟩
    rw [if_pos hfull]
    rcases hvictim other e (hlive h he) with hstays | ⟨hother, hle⟩
    · exact .inl hstays
    · refine .inr ⟨hother, hfull, fun {other'} {e'} h' he' => ?_⟩
      exact hle (other', e') (Dictionary.mem_of_get?_eq_some (hlive h' he'))
  · refine ⟨"", fun other e h he => ?_⟩
    rw [if_neg hfull]
    exact .inl (hlive h he)

/-- Putting a value in changes this much. -/
lemma takesIn_insert (honce : m.entries.Once) (roomAt now : ℕ) (key : String) (value : α) :
    m.TakesIn roomAt now key value (m.insert roomAt now key value) := by
  by_cases hclosed : m.capacity = 0
  · have hsame : m.insert roomAt now key value = m := by
      rw [insert, if_pos hclosed]
    rw [hsame]
    exact
      { capacity_eq := rfl
        ttl_eq := rfl
        unless_closed := fun h => absurd hclosed h
        of_closed := fun _ => rfl
        was := fun _ => id
        stays := ⟨"", fun _ _ _ h _ => .inl h⟩ }
  · -- the map into which the value is put: with room made for it, or as it is
    obtain ⟨room, overran, hroom, hsub, hsettings, victim, hvictim⟩ :
        ∃ (room : ExpiringMap α) (overran : Bool),
          m.insert roomAt now key value =
            { room with entries := room.entries.put key ⟨value, now, now + room.ttl⟩, overran } ∧
          room.entries.Sublist m.entries ∧ (room.capacity = m.capacity ∧ room.ttl = m.ttl) ∧
          ∃ victim, ∀ other e, m.entries.get? other = some e → e.isLive roomAt →
            room.entries.get? other = some e ∨ other = victim ∧ m.MakesRoom roomAt e := by
      rw [insert, if_neg hclosed]
      refine ⟨_, _, rfl, ?_⟩
      split
      · exact ⟨makeRoom_sublist m roomAt, makeRoom_settings m roomAt,
          exists_victim_makeRoom honce roomAt⟩
      · exact ⟨.refl _, ⟨rfl, rfl⟩, "", fun _ _ h _ => .inl h⟩
    rw [hroom]
    exact
      { capacity_eq := hsettings.1
        ttl_eq := hsettings.2
        unless_closed := fun _ => by rw [← hsettings.2, Dictionary.get?_put_self]
        of_closed := fun h => absurd h hclosed
        was := fun hne h => by
          rw [Dictionary.get?_put_of_ne _ _ (Ne.symm hne)] at h
          exact Dictionary.get?_of_sublist honce hsub h
        stays := ⟨victim, fun other e hne h he => by
          rw [Dictionary.get?_put_of_ne _ _ (Ne.symm hne)]
          exact hvictim other e h he⟩ }

/-! ### Keys that stand once -/

/-- Looking up leaves each key once. -/
lemma once_get? (h : m.entries.Once) (now : ℕ) (key : String) :
    (m.get? now key).2.entries.Once := by
  rw [get?]
  split
  · exact h
  · split
    · exact h.put key _
    · exact h.remove key

/-- Putting in leaves each key once. -/
lemma once_insert (h : m.entries.Once) (roomAt now : ℕ) (key : String) (value : α) :
    (m.insert roomAt now key value).entries.Once := by
  rw [insert]
  split
  · exact h
  · refine Dictionary.Once.put ?_ key _
    split
    · exact ((makeRoom_sublist m roomAt).map Prod.fst).nodup h
    · exact h

end ExpiringMap

namespace Cache

/-! ### What every use of a cache keeps -/

/-- A property of caches that every use keeps. -/
structure Invariant (P : Cache → Prop) : Prop where
  source? {c : Cache} (h : P c) (now : ℕ) (location : String) : P (c.source? now location).2
  keepSource {c : Cache} (h : P c) (roomAt now : ℕ) (location : String) (data : Bytes) :
    P (c.keepSource now location data roomAt)
  map? {c : Cache} (h : P c) (now : ℕ) (key : String) : P (c.map? now key).2
  keepMap {c : Cache} (h : P c) (roomAt now : ℕ) (key : String) (map : SourceMap) :
    P (c.keepMap now key map roomAt)

/-- Each key stands once in either map. -/
structure Once (c : Cache) : Prop where
  sources : c.sources.entries.Once
  maps : c.maps.entries.Once

/-- A new cache has no keys. -/
lemma once_make (capacity ttlSecs : ℕ) : (make capacity ttlSecs).Once :=
  ⟨List.nodup_nil, List.nodup_nil⟩

/-- Each key stands once whatever the cache is used for. -/
lemma invariant_once : Invariant Once where
  source? h now location := ⟨ExpiringMap.once_get? h.sources now location, h.maps⟩
  keepSource h roomAt now location data :=
    ⟨ExpiringMap.once_insert h.sources roomAt now location data, h.maps⟩
  map? h now key := ⟨h.sources, ExpiringMap.once_get? h.maps now key⟩
  keepMap h roomAt now key map :=
    ⟨h.sources, ExpiringMap.once_insert h.maps roomAt now key map⟩

end Cache

end Retrace
