import Mathlib
import Retrace.Proofs.Cache.Recency

/-!
# A bounded map that gives up what was used least recently

What a map that forgets does in a whole run, whatever is looked up and put in, is what `Recency`
does: the two give the same answers and have the same sizes (`reports_eq_recency`). This follows
from single uses (`Tracks.use`) as long as each use comes after the ones before.

A use that has to make room reads the clock twice: once for what has expired and, when there is
room, for the time that the new value is put in. What expires in between is still there for the
choice of what is given up.

What there is to say about the run is then read off the list. It never has more values than its
capacity (`Recency.Bounded.use`). It gives up a value that still counts only if the list is full of
such values and this one is the last (`Recency.Bounded.last_of_dropped`). And whatever it gives was
put in last under its key, less than `ttl` before (`Recency.Bounded.fresh`).
-/

namespace Retrace

namespace Dictionary

variable {α : Type} {d d' : Dictionary α} {key other : String} {value : α}

/-- A name that stands in a dictionary has a value there. -/
lemma get?_ne_none_of_mem (h : (key, value) ∈ d) : d.get? key ≠ none := by
  induction d with
  | nil => exact absurd h List.not_mem_nil
  | cons p rest ih =>
    rw [get?]
    split
    · exact Option.some_ne_none _
    · next hne =>
      rcases List.mem_cons.mp h with rfl | hrest
      · exact absurd rfl hne
      · exact ih hrest

/-- What has another name is found as before. -/
lemma get?_remove_of_ne (h : other ≠ key) : (d.remove key).get? other = d.get? other := by
  induction d with
  | nil => rfl
  | cons p rest ih =>
    by_cases hkey : p.1 = key
    · have hremove : remove (p :: rest) key = remove rest key :=
        List.filter_cons_of_neg (by simpa using hkey)
      have hne : p.1 ≠ other := fun hother => h (hother.symm.trans hkey)
      rw [hremove, ih, get?, if_neg hne]
    · have hremove : remove (p :: rest) key = p :: remove rest key :=
        List.filter_cons_of_pos (by simpa using hkey)
      rw [hremove, get?, get?, ih]

/-- What is found in a part of a dictionary in which each name stands once. -/
lemma get?_of_sublist (h : Once d) (hsub : d'.Sublist d) (hget : d'.get? key = some value) :
    d.get? key = some value :=
  (get?_eq_some_iff h).mpr (hsub.subset (mem_of_get?_eq_some hget))

/-- Taking out a name that stands there makes a dictionary shorter. -/
lemma length_remove_lt (h : d.get? key = some value) : (d.remove key).length < d.length := by
  refine (List.length_filter_lt_length_iff_exists).mpr ⟨(key, value), mem_of_get?_eq_some h, ?_⟩
  simp

/-- What is no longer found without the last pair was the last pair. -/
lemma getLast?_eq_of_get?_dropLast (hget : d.get? key = some value)
    (hdrop : get? d.dropLast key = none) : d.getLast? = some (key, value) := by
  have hmem := mem_of_get?_eq_some hget
  rcases List.eq_nil_or_concat d with rfl | ⟨init, last, rfl⟩
  · exact absurd hmem List.not_mem_nil
  · rw [List.concat_eq_append] at hmem hdrop ⊢
    rw [List.dropLast_concat] at hdrop
    rcases List.mem_append.mp hmem with hinit | hlast
    · exact absurd hdrop (get?_ne_none_of_mem hinit)
    · rw [List.mem_singleton.mp hlast, List.getLast?_concat]

end Dictionary

variable {α τ : Type}

/-! ### Uses of a map -/

/-- A use of a map, with the readings of the clock at which it is made. What is put in at the time
`now` has room made for it at the time `roomAt`; if there is room, `roomAt` does not matter. -/
inductive Use (α : Type)
  | get (now : ℕ) (key : String)
  | insert (roomAt now : ℕ) (key : String) (value : α)

namespace Use

/-- When a use begins: the first reading of the clock. -/
def start : Use α → ℕ
  | .get now _ => now
  | .insert roomAt _ _ _ => roomAt

/-- When a use is made: the last reading of the clock. -/
def now : Use α → ℕ
  | .get now _ => now
  | .insert _ now _ _ => now

/-- What a use puts in under a key, and when. -/
def inserted? (key : String) : Use α → Option (ℕ × α)
  | .get _ _ => none
  | .insert _ now other value => if other = key then some (now, value) else none

/-- What uses have put in last under a key, and when. -/
def lastInserted? (uses : List (Use α)) (key : String) : Option (ℕ × α) :=
  uses.reverse.findSome? (inserted? key)

/-- What uses leave, one after the other. -/
def after (use : τ → Use α → Option α × τ) (start : τ) (uses : List (Use α)) : τ :=
  uses.foldl (fun s u => (use s u).2) start

/-- What uses give, one after the other, each with the size that it leaves. -/
def reports (use : τ → Use α → Option α × τ) (size : τ → ℕ) : τ → List (Use α) →
    List (Option α × ℕ)
  | _, [] => []
  | s, u :: rest => ((use s u).1, size (use s u).2) :: reports use size (use s u).2 rest

/-- One use more. -/
lemma after_concat (use : τ → Use α → Option α × τ) (start : τ) (uses : List (Use α)) (u : Use α) :
    after use start (uses ++ [u]) = (use (after use start uses) u).2 := by
  rw [after, List.foldl_append]
  rfl

/-- What is put in last when there is one use more. -/
lemma lastInserted?_concat (uses : List (Use α)) (u : Use α) (key : String) :
    lastInserted? (uses ++ [u]) key = (u.inserted? key).or (lastInserted? uses key) := by
  rw [lastInserted?, List.reverse_concat, List.findSome?_cons]
  cases u.inserted? key <;> rfl

/-- What is put in last was put in by one of the uses. -/
lemma exists_of_lastInserted?_eq_some {uses : List (Use α)} {key : String} {time : ℕ} {value : α}
    (h : lastInserted? uses key = some (time, value)) : ∃ u ∈ uses, u.now = time := by
  obtain ⟨u, hmem, hu⟩ := List.exists_of_findSome?_eq_some h
  refine ⟨u, List.mem_reverse.mp hmem, ?_⟩
  cases u with
  | get now other => cases hu
  | insert roomAt now other value' =>
    rw [inserted?] at hu
    split at hu
    · exact congrArg Prod.fst (Option.some.inj hu)
    · cases hu

end Use

/-- Uses a map. Putting in gives nothing. -/
def ExpiringMap.use (m : ExpiringMap α) : Use α → Option α × ExpiringMap α
  | .get now key => m.get? now key
  | .insert roomAt now key value => (none, m.insert roomAt now key value)

/-- Uses a list. Putting in gives nothing. -/
def Recency.use (l : Recency α) : Use α → Option α × Recency α
  | .get now key => l.get? now key
  | .insert roomAt now key value => (none, l.insert roomAt now key value)

/-! ### The list -/

namespace Recency

variable {l : Recency α} {u : Use α} {now : ℕ} {key : String} {item : Item α} {value : α}

/-- No use changes how much room there is and how long values count. -/
lemma use_settings (l : Recency α) (u : Use α) :
    (l.use u).2.capacity = l.capacity ∧ (l.use u).2.ttl = l.ttl := by
  cases u with
  | get now key =>
    rw [use, get?]
    split
    · exact ⟨rfl, rfl⟩
    · split <;> exact ⟨rfl, rfl⟩
  | insert roomAt now key value =>
    rw [use, insert]
    dsimp only
    split
    · exact ⟨rfl, rfl⟩
    · split
      · rw [makeRoom]
        split <;> exact ⟨rfl, rfl⟩
      · exact ⟨rfl, rfl⟩

/-- A list in which each key stands once, with no more values than there is room for. -/
structure Bounded (l : Recency α) : Prop where
  once : l.items.Once
  length_le : l.items.length ≤ l.capacity

/-- The list without values. -/
lemma bounded_empty (capacity ttl : ℕ) : (empty capacity ttl : Recency α).Bounded where
  once := List.nodup_nil
  length_le := Nat.zero_le capacity

/-- Some of the items, with the item of a key in front of those of other keys. -/
lemma once_cons_remove {d d' : Dictionary (Item α)} (h : d.Once) (hsub : d'.Sublist d)
    (key : String) (item : Item α) : Dictionary.Once ((key, item) :: d'.remove key) := by
  refine List.nodup_cons.mpr ⟨fun hmem => ?_, ?_⟩
  · obtain ⟨p, hp, hkey⟩ := List.mem_map.mp hmem
    exact of_decide_eq_true (List.mem_filter.mp hp).2 hkey
  · exact ((List.filter_sublist.trans hsub).map Prod.fst).nodup h

/-- What is left when room is made. -/
lemma makeRoom_sublist (l : Recency α) (now : ℕ) : (l.makeRoom now).items.Sublist l.items := by
  have hlive : (l.dropExpired now).items.Sublist l.items := List.filter_sublist
  rw [makeRoom]
  split
  · exact (List.dropLast_sublist _).trans hlive
  · exact hlive

/-- There is room when room has been made. -/
lemma Bounded.length_makeRoom_lt (h : l.Bounded) (hroom : l.capacity ≠ 0) (now : ℕ) :
    (l.makeRoom now).items.length < l.capacity := by
  have hlive : (l.dropExpired now).items.length ≤ l.items.length := List.length_filter_le _ _
  have hle := h.length_le
  have hcapacity : (l.dropExpired now).capacity = l.capacity := rfl
  rw [makeRoom, hcapacity]
  split
  · rw [dropLast, List.length_dropLast]
    omega
  · omega

/-- A use keeps the keys different. -/
lemma Bounded.once_use (h : l.Bounded) (u : Use α) : (l.use u).2.items.Once := by
  cases u with
  | get now key =>
    rw [Recency.use, get?]
    split
    · exact h.once
    · split
      · exact once_cons_remove h.once (List.Sublist.refl _) key _
      · exact (List.filter_sublist.map Prod.fst).nodup h.once
  | insert roomAt now key value =>
    rw [Recency.use, insert]
    dsimp only
    split
    · exact h.once
    · split
      · exact once_cons_remove h.once (l.makeRoom_sublist roomAt) key _
      · exact once_cons_remove h.once (List.Sublist.refl _) key _

/-- A use does not take more room than there is. -/
lemma Bounded.length_use_le (h : l.Bounded) (u : Use α) :
    (l.use u).2.items.length ≤ l.capacity := by
  have hle := h.length_le
  cases u with
  | get now key =>
    rw [Recency.use, get?]
    split
    · exact hle
    · next item hitem =>
      have hlt := Dictionary.length_remove_lt hitem
      split
      · rw [List.length_cons]
        omega
      · dsimp only
        omega
  | insert roomAt now key value =>
    rw [Recency.use, insert]
    dsimp only
    split
    · exact hle
    · next hroom =>
      rw [List.length_cons]
      split
      · have hmade := h.length_makeRoom_lt hroom roomAt
        have hremove : ((l.makeRoom roomAt).items.remove key).length ≤ _ := List.length_filter_le _ _
        omega
      · next hcase =>
        -- without making room, the key is in the list or there is room for one more
        cases hitem : l.items.get? key with
        | some item =>
          have hlt := Dictionary.length_remove_lt hitem
          omega
        | none =>
          have hremove : (l.items.remove key).length ≤ _ := List.length_filter_le _ _
          simp only [Dictionary.has, hitem, Option.isSome_none, Bool.not_false, Bool.true_and,
            decide_eq_true_eq] at hcase
          omega

/-- A use keeps a list within its bounds. -/
lemma Bounded.use (h : l.Bounded) (u : Use α) : (l.use u).2.Bounded where
  once := h.once_use u
  length_le := by
    rw [(l.use_settings u).1]
    exact h.length_use_le u

/-- What a use gives is in the list and still counts. -/
lemma of_use_eq_some (h : (l.use u).1 = some value) : ∃ now key item, u = .get now key ∧
    l.items.get? key = some item ∧ item.isLive now = true ∧ item.value = value := by
  cases u with
  | insert roomAt now key value' => cases h
  | get now key =>
    rw [use, get?] at h
    split at h
    · cases h
    · next item hitem =>
      split at h
      · next hlive => exact ⟨now, key, item, rfl, hitem, hlive, Option.some.inj h⟩
      · cases h

/-- What is in the list after a use was put in by it or was there before. -/
lemma Bounded.get?_use (h : l.Bounded) (hitem : (l.use u).2.items.get? key = some item) :
    (∀ time value, u.inserted? key = some (time, value) → item = ⟨value, time + l.ttl⟩) ∧
      (u.inserted? key = none → l.items.get? key = some item) := by
  cases u with
  | get now other =>
    refine ⟨fun time value hinserted => absurd hinserted (by simp [Use.inserted?]), fun _ => ?_⟩
    rw [Recency.use, get?] at hitem
    split at hitem
    · exact hitem
    · next found hfound =>
      split at hitem
      · rw [Dictionary.get?] at hitem
        split at hitem
        · next hkey => rw [← hkey, hfound, hitem]
        · exact Dictionary.get?_of_sublist h.once List.filter_sublist hitem
      · exact Dictionary.get?_of_sublist h.once List.filter_sublist hitem
  | insert roomAt now other value =>
    rw [Recency.use, insert] at hitem
    dsimp only at hitem
    split at hitem
    · next hzero =>
      -- a list without any room has nothing
      have hlength := h.length_le
      rw [hzero, Nat.le_zero, List.length_eq_zero_iff] at hlength
      rw [hlength] at hitem
      cases hitem
    · rw [Dictionary.get?] at hitem
      rw [Use.inserted?]
      split at hitem
      · next hkey =>
        rw [if_pos hkey]
        refine ⟨fun time value' hinserted => ?_, fun hnone => absurd hnone (by simp)⟩
        obtain ⟨rfl, rfl⟩ := Prod.mk.inj (Option.some.inj hinserted)
        rw [← Option.some.inj hitem]
        split
        · rw [makeRoom]
          split <;> rfl
        · rfl
      · next hne =>
        rw [if_neg hne]
        refine ⟨fun time value' hinserted => absurd hinserted (by simp), fun _ => ?_⟩
        refine Dictionary.get?_of_sublist h.once ?_ hitem
        split
        · exact List.filter_sublist.trans (l.makeRoom_sublist roomAt)
        · exact List.filter_sublist

/-- Making room takes a value that still counts only from a list that is full of such values, and
only the last of them. -/
lemma Bounded.last_of_makeRoom (h : l.Bounded) (hitem : l.items.get? key = some item)
    (hlive : item.isLive now = true) (hgone : (l.makeRoom now).items.get? key = none) :
    l.items.length = l.capacity ∧ (∀ p ∈ l.items, p.2.isLive now = true) ∧
      l.items.getLast? = some (key, item) := by
  have hkept : (l.dropExpired now).items.get? key = some item := by
    have hsub : (l.dropExpired now).items.Sublist l.items := List.filter_sublist
    have honce : Dictionary.Once (l.dropExpired now).items := (hsub.map Prod.fst).nodup h.once
    refine (Dictionary.get?_eq_some_iff honce).mpr (List.mem_filter.mpr ⟨?_, hlive⟩)
    exact Dictionary.mem_of_get?_eq_some hitem
  rw [makeRoom] at hgone
  split at hgone
  · next hfull =>
    have hle := h.length_le
    have hfull : l.capacity ≤ (l.dropExpired now).items.length := hfull
    have hshort : (l.dropExpired now).items.length ≤ l.items.length := List.length_filter_le _ _
    -- so nothing has expired
    have hall : ∀ p ∈ l.items, p.2.isLive now = true := by
      refine List.length_filter_eq_length_iff.mp ?_
      change (l.dropExpired now).items.length = l.items.length
      omega
    have hsame : (l.dropExpired now).items = l.items := List.filter_eq_self.mpr hall
    rw [dropLast, hsame] at hgone
    exact ⟨by omega, hall, Dictionary.getLast?_eq_of_get?_dropLast hitem hgone⟩
  · rw [hkept] at hgone
    cases hgone

/-- A use takes out a value that still counts only if it puts another value into a list that is full
of such values, and only the last of them. -/
lemma Bounded.last_of_dropped (h : l.Bounded) (hitem : l.items.get? key = some item)
    (hlive : item.isLive u.start = true) (hgone : (l.use u).2.items.get? key = none) :
    l.items.length = l.capacity ∧ (∀ p ∈ l.items, p.2.isLive u.start = true) ∧
      l.items.getLast? = some (key, item) := by
  cases u with
  | get now other =>
    -- looking up takes out only what has expired
    exfalso
    rw [Recency.use, get?] at hgone
    split at hgone
    · rw [hitem] at hgone
      cases hgone
    · next found hfound =>
      by_cases hkey : other = key
      · rw [hkey, hitem] at hfound
        obtain rfl := Option.some.inj hfound
        rw [Use.start] at hlive
        rw [if_pos hlive, hkey, Dictionary.get?, if_pos rfl] at hgone
        cases hgone
      · have hremove := Dictionary.get?_remove_of_ne (d := l.items) (Ne.symm hkey)
        split at hgone
        · rw [Dictionary.get?, if_neg hkey, hremove, hitem] at hgone
          cases hgone
        · rw [hremove, hitem] at hgone
          cases hgone
  | insert roomAt now other value =>
    rw [Recency.use, insert] at hgone
    dsimp only at hgone
    split at hgone
    · rw [hitem] at hgone
      cases hgone
    · rw [Dictionary.get?] at hgone
      split at hgone
      · cases hgone
      · next hkey =>
        rw [Dictionary.get?_remove_of_ne (Ne.symm hkey)] at hgone
        split at hgone
        · exact h.last_of_makeRoom hitem hlive hgone
        · rw [hitem] at hgone
          cases hgone

/-- Every value in a list is the one that uses have put in last under its key, and counts for `ttl`
from then on. -/
def FromUses (uses : List (Use α)) (l : Recency α) : Prop :=
  ∀ key item, l.items.get? key = some item →
    ∃ time, Use.lastInserted? uses key = some (time, item.value) ∧ item.expiresAt = time + l.ttl

/-- One use more. -/
lemma Bounded.fromUses_use {uses : List (Use α)} (h : l.Bounded) (hfrom : l.FromUses uses)
    (u : Use α) : (l.use u).2.FromUses (uses ++ [u]) := by
  intro key item hitem
  obtain ⟨hnew, hold⟩ := h.get?_use hitem
  rw [Use.lastInserted?_concat, (l.use_settings u).2]
  cases hinserted : u.inserted? key with
  | none => exact hfrom key item (hold hinserted)
  | some put =>
    obtain ⟨time, value⟩ := put
    rw [hnew time value hinserted]
    exact ⟨time, rfl, rfl⟩

/-- What a list is after uses. -/
lemma after_empty (capacity ttl : ℕ) (uses : List (Use α)) :
    let l := Use.after use (empty capacity ttl) uses
    l.Bounded ∧ l.FromUses uses ∧ l.capacity = capacity ∧ l.ttl = ttl := by
  induction uses using List.reverseRecOn with
  | nil =>
    refine ⟨bounded_empty capacity ttl, fun key item hitem => ?_, rfl, rfl⟩
    cases hitem
  | append_singleton uses u ih =>
    obtain ⟨hbounded, hfrom, hcapacity, httl⟩ := ih
    obtain ⟨hcapacity', httl'⟩ := use_settings (Use.after use (empty capacity ttl) uses) u
    intro l
    rw [show l = _ from Use.after_concat use _ uses u]
    exact ⟨hbounded.use u, hbounded.fromUses_use hfrom u, hcapacity'.trans hcapacity,
      httl'.trans httl⟩

/-- What a list gives was put in last under its key, less than `ttl` before. -/
lemma FromUses.fresh {uses : List (Use α)} (h : l.FromUses uses)
    (hgives : (l.use u).1 = some value) : ∃ key time, u = .get u.now key ∧
      Use.lastInserted? uses key = some (time, value) ∧ u.now < time + l.ttl := by
  obtain ⟨now, key, item, rfl, hitem, hlive, rfl⟩ := of_use_eq_some hgives
  obtain ⟨time, hlast, hexpires⟩ := h key item hitem
  rw [Item.isLive, decide_eq_true_eq, hexpires] at hlive
  exact ⟨key, time, rfl, hlast, hlive⟩

end Recency

/-! ### The map and the list -/

namespace ExpiringMap

variable {bound : ℕ} {m : ExpiringMap α} {l : Recency α} {uses : List (Use α)}

/-- Each use is made when it has begun, and begins after all uses before were made. Readings of the
clock of which each is later than the one before are so, whether a use reads it once or twice. -/
structure Clocked (uses : List (Use α)) : Prop where
  start_le_now : ∀ u ∈ uses, u.start ≤ u.now
  ordered : uses.Pairwise fun u v => u.now < v.start

/-- The map and the list give the same for a use, and the list goes on tracking the map. -/
lemma Tracks.use (h : Tracks bound m l) {u : Use α} (hnow : bound ≤ u.now) :
    (m.use u).1 = (l.use u).1 ∧ Tracks (u.now + 1) (m.use u).2 (l.use u).2 := by
  cases u with
  | get now key => exact h.get? hnow key
  | insert roomAt now key value => exact ⟨rfl, h.insert roomAt hnow key value⟩

/-- An entry of the map stands in the list. -/
lemma Tracks.mem_items (h : Tracks bound m l) {p : String × Entry α} (hp : p ∈ m.entries) :
    (p.1, p.2.item) ∈ l.items := by
  obtain ⟨-, -, d, -, hperm, hitems⟩ := h
  rw [hitems]
  exact List.mem_map.mpr ⟨p, hperm.mem_iff.mpr hp, rfl⟩

/-- A use takes out an entry that still counts only if the map is full of such entries, and only the
one that was used least recently. -/
lemma Tracks.last_of_dropped (h : Tracks bound m l) {u : Use α} (hnow : bound ≤ u.now)
    (hbounded : l.Bounded) {key : String} {e : Entry α} (he : m.entries.get? key = some e)
    (hlive : e.isLive u.start = true) (hgone : (m.use u).2.entries.get? key = none) :
    m.size = l.capacity ∧ (∀ p ∈ m.entries, p.2.isLive u.start = true) ∧
      l.items.getLast? = some (key, e.item) := by
  have hitem : l.items.get? key = some e.item := by rw [h.get?_items, he, Option.map_some]
  have hgoneItem : (l.use u).2.items.get? key = none := by
    rw [(h.use hnow).2.get?_items, hgone, Option.map_none]
  obtain ⟨hfull, hall, hlast⟩ := hbounded.last_of_dropped hitem hlive hgoneItem
  exact ⟨h.size_eq.trans hfull, fun p hp => hall _ (h.mem_items hp), hlast⟩

/-- The map and the list give the same for uses, and the list goes on tracking the map. -/
lemma Tracks.run (h : Tracks bound m l) (hclock : Clocked uses)
    (hbound : ∀ u ∈ uses, bound ≤ u.now) :
    Use.reports ExpiringMap.use size m uses =
        Use.reports Recency.use (fun l => l.items.length) l uses ∧
      ∀ now, bound ≤ now → (∀ u ∈ uses, u.now < now) →
        Tracks now (Use.after ExpiringMap.use m uses) (Use.after Recency.use l uses) := by
  induction uses generalizing bound m l with
  | nil => exact ⟨rfl, fun now hle _ => h.mono hle⟩
  | cons u rest ih =>
    obtain ⟨hstart, hstarts⟩ := List.forall_mem_cons.mp hclock.start_le_now
    obtain ⟨hlater, hrest⟩ := List.pairwise_cons.mp hclock.ordered
    obtain ⟨hgives, htracks⟩ := h.use (hbound u List.mem_cons_self)
    obtain ⟨hreports, hafter⟩ :=
      ih htracks ⟨hstarts, hrest⟩ fun v hv => (hlater v hv).trans_le (hstarts v hv)
    refine ⟨?_, fun now _ hbefore => ?_⟩
    · rw [Use.reports, Use.reports, hgives, htracks.size_eq, hreports]
    · obtain ⟨hu, hothers⟩ := List.forall_mem_cons.mp hbefore
      exact hafter now hu hothers

/-- **A bounded map that gives up what was used least recently.** Whatever is looked up in a map and
put into it, each use at later readings of the clock, it gives what the list in the order of last
use gives, and it has the same size. At each use of the run: the size does not pass the capacity; a
value that still counts when the use begins is dropped only from a map that is full of such values,
and it is the last of the list; a value that is given was put in last under its key, less than `ttl`
before; and nothing is given when values expire at once. -/
theorem reports_eq_recency (capacity ttl : ℕ) (uses : List (Use α)) (hclock : Clocked uses) :
    let start : ExpiringMap α := .empty capacity ttl
    let list : Recency α := .empty capacity ttl
    Use.reports use size start uses =
        Use.reports Recency.use (fun l => l.items.length) list uses ∧
      ∀ before u later, uses = before ++ u :: later →
        let m := Use.after use start before
        let l := Use.after Recency.use list before
        (m.use u).2.size ≤ capacity ∧
          (∀ key e, m.entries.get? key = some e → e.isLive u.start = true →
            (m.use u).2.entries.get? key = none →
              m.size = capacity ∧ (∀ p ∈ m.entries, p.2.isLive u.start = true) ∧
                l.items.getLast? = some (key, e.item)) ∧
          (∀ value, (m.use u).1 = some value → ∃ key time, u = .get u.now key ∧
            Use.lastInserted? before key = some (time, value) ∧ u.now < time + ttl) ∧
          (ttl = 0 → (m.use u).1 = none) := by
  intro start list
  have hstart : Tracks 0 start list := tracks_empty 0 capacity ttl
  refine ⟨(hstart.run hclock fun _ _ => Nat.zero_le _).1, ?_⟩
  intro before u later huses m l
  rw [huses] at hclock
  obtain ⟨hstarts, hstarts'⟩ := List.forall_mem_append.mp hclock.start_le_now
  obtain ⟨hordered, -, hcross⟩ := List.pairwise_append.mp hclock.ordered
  have hearlier : ∀ v ∈ before, v.now < u.now := fun v hv =>
    (hcross v hv u List.mem_cons_self).trans_le (hstarts' u List.mem_cons_self)
  have htracks : Tracks u.now m l :=
    (hstart.run ⟨hstarts, hordered⟩ fun _ _ => Nat.zero_le _).2 u.now (Nat.zero_le _) hearlier
  obtain ⟨hgives, hnext⟩ := htracks.use le_rfl
  obtain ⟨hbounded, hfrom, hcapacity, httl⟩ := Recency.after_empty capacity ttl before
  have hfresh : ∀ value, (m.use u).1 = some value → ∃ key time, u = .get u.now key ∧
      Use.lastInserted? before key = some (time, value) ∧ u.now < time + ttl := by
    intro value hvalue
    rw [← httl]
    exact hfrom.fresh (hgives.symm.trans hvalue)
  refine ⟨?_, fun key e he hlive hgone => ?_, hfresh, fun hzero => ?_⟩
  · rw [hnext.size_eq, ← hcapacity]
    exact hbounded.length_use_le u
  · obtain ⟨hfull, hall, hlast⟩ := htracks.last_of_dropped le_rfl hbounded he hlive hgone
    exact ⟨hfull.trans hcapacity, hall, hlast⟩
  · by_contra hne
    obtain ⟨value, hvalue⟩ := Option.ne_none_iff_exists'.mp hne
    obtain ⟨key, time, -, hlast, hlt⟩ := hfresh value hvalue
    obtain ⟨v, hv, htime⟩ := Use.exists_of_lastInserted?_eq_some hlast
    have hlt' := hearlier v hv
    omega

/-- Three keys in a map with room for two, whose values count for ten units of time. Room for the
third is made at 9, and it is put in at 11, when the first does not count any more. -/
def threeKeys : List (Use ℕ) :=
  [.insert 1 1 "a" 1, .insert 2 2 "b" 2, .get 3 "a", .insert 9 11 "c" 3, .get 12 "b", .get 13 "a",
    .get 20 "c"]

/-- The second key was used least recently when room is made for the third, and both still count, so
it is given up; the first is there until it is looked up. -/
theorem second_of_threeKeys_dropped :
    let map : ExpiringMap ℕ := .empty 2 10
    let list : Recency ℕ := .empty 2 10
    Use.reports Recency.use (fun l => l.items.length) list threeKeys =
        [(none, 1), (none, 2), (some 1, 2), (none, 2), (none, 2), (none, 1), (some 3, 1)] ∧
      (Use.after use map (threeKeys.take 3)).size = 2 ∧
      (Use.after Recency.use list (threeKeys.take 3)).items.getLast? = some ("b", ⟨2, 12⟩) := by
  intro map list
  have hclock : Clocked threeKeys :=
    ⟨by simp [threeKeys, Use.start, Use.now], by simp [threeKeys, Use.start, Use.now]⟩
  obtain ⟨hreports, hsteps⟩ := reports_eq_recency 2 10 threeKeys hclock
  obtain ⟨-, hdropped, -, -⟩ :=
    hsteps (threeKeys.take 3) (.insert 9 11 "c" 3) (threeKeys.drop 4) rfl
  obtain ⟨hfull, -, hlast⟩ := hdropped "b" ⟨2, 2, 12⟩ (by cbv) (by cbv) (by cbv)
  refine ⟨hreports.symm.trans ?_, hfull, hlast⟩
  cbv

end ExpiringMap

end Retrace
