import Mathlib
import Retrace.Cache.ExpiringMap

/-!
# The order of last use

A map that forgets notes of each entry when it was last used, and gives up the one whose use is
longest ago. `Recency` is the same without any such notes: a list of what is kept, with what was
used last in front, from whose end it is given up.

The two answer alike as long as each reading of the clock is later than the one before
(`Tracks.get?`, `Tracks.insert`): the entries of the map, sorted by their last use, are the list.
-/

namespace Retrace

/-! ### Dictionaries in which each name stands once -/

namespace Dictionary

variable {α β : Type} {d d' : Dictionary α} {key : String} {value : α}

/-- Each name stands once. -/
def Once (d : Dictionary α) : Prop :=
  (d.map Prod.fst).Nodup

/-- Where each name stands once, what is found under a name is what stands there. -/
lemma get?_eq_some_iff (h : Once d) : d.get? key = some value ↔ (key, value) ∈ d := by
  refine ⟨mem_of_get?_eq_some, fun hmem => ?_⟩
  induction d with
  | nil => exact absurd hmem List.not_mem_nil
  | cons p rest ih =>
    obtain ⟨hfresh, hrest⟩ := List.nodup_cons.mp h
    rw [get?]
    rcases List.mem_cons.mp hmem with rfl | hmem
    · simp only [if_true]
    · have hne : p.1 ≠ key := by
        rintro rfl
        exact hfresh (List.mem_map.mpr ⟨_, hmem, rfl⟩)
      rw [if_neg hne]
      exact ih hrest hmem

/-- The order does not matter for what is found. -/
lemma get?_eq_of_perm (h : Once d) (hperm : d.Perm d') (key : String) :
    d.get? key = d'.get? key := by
  have h' : Once d' := (hperm.map Prod.fst).nodup_iff.mp h
  refine Option.ext fun value => ?_
  rw [get?_eq_some_iff h, get?_eq_some_iff h', hperm.mem_iff]

/-- Taking out a name that does not stand there changes nothing. -/
lemma remove_eq_self (h : ∀ p ∈ d, p.1 ≠ key) : d.remove key = d :=
  List.filter_eq_self.mpr fun p hp => decide_eq_true (h p hp)

/-- Giving a name a value, up to the order. -/
lemma put_perm (h : Once d) (key : String) (value : α) :
    (d.put key value).Perm ((key, value) :: d.remove key) := by
  induction d with
  | nil => exact .refl _
  | cons p rest ih =>
    obtain ⟨hfresh, hrest⟩ := List.nodup_cons.mp h
    rw [put]
    split
    · next hkey =>
      have hnot : ∀ q ∈ rest, q.1 ≠ key := by
        rintro q hq rfl
        exact hfresh (hkey ▸ List.mem_map_of_mem hq)
      have hremove : remove (p :: rest) key = rest := by
        rw [remove, List.filter_cons_of_neg (by simpa using hkey)]
        exact remove_eq_self hnot
      rw [hremove]
    · next hne =>
      have hremove : remove (p :: rest) key = p :: remove rest key :=
        List.filter_cons_of_pos (by simpa using hne)
      rw [hremove]
      exact ((ih hrest).cons p).trans (.swap _ _ _)

/-- Where each name stands once, taking one out leaves the others so. -/
lemma Once.remove (h : Once d) (key : String) : Once (d.remove key) :=
  (List.filter_sublist.map Prod.fst).nodup h

/-- Where each name stands once, it does so once a name has a value. -/
lemma Once.put (h : Once d) (key : String) (value : α) : Once (d.put key value) := by
  refine ((put_perm h key value).map Prod.fst).nodup_iff.mpr (List.nodup_cons.mpr ⟨?_, ?_⟩)
  · intro hmem
    obtain ⟨p, hp, hkey⟩ := List.mem_map.mp hmem
    exact of_decide_eq_true (List.mem_filter.mp hp).2 hkey
  · exact h.remove key

/-- What is found when all values are changed. -/
lemma get?_map (f : α → β) (d : Dictionary α) (key : String) :
    get? (d.map fun p => (p.1, f p.2)) key = (d.get? key).map f := by
  induction d with
  | nil => rfl
  | cons p rest ih =>
    rw [List.map_cons, get?, get?]
    split
    · rfl
    · exact ih

/-- Taking a name out when all values are changed. -/
lemma remove_map (f : α → β) (d : Dictionary α) (key : String) :
    remove (d.map fun p => (p.1, f p.2)) key = (d.remove key).map fun p => (p.1, f p.2) := by
  rw [remove, remove, List.filter_map]
  rfl

end Dictionary

/-! ### Lists in the order of last use -/

/-- A value with the time from which on it does not count. -/
structure Item (α : Type) where
  value : α
  expiresAt : ℕ

/-- Whether an item still counts. -/
def Item.isLive {α : Type} (item : Item α) (now : ℕ) : Bool :=
  now < item.expiresAt

/-- An entry without the note of its last use. -/
def Entry.item {α : Type} (e : Entry α) : Item α :=
  ⟨e.value, e.expiresAt⟩

/-- Values by key, with what was used last in front, which expire `ttl` after they were put in, with
room for `capacity` of them. -/
structure Recency (α : Type) where
  capacity : ℕ
  ttl : ℕ
  items : Dictionary (Item α)

namespace Recency

variable {α : Type}

/-- The list without values. -/
def empty (capacity ttl : ℕ) : Recency α := ⟨capacity, ttl, []⟩

/-- The value of a key, which goes to the front. A value that has expired is taken out. -/
def get? (l : Recency α) (now : ℕ) (key : String) : Option α × Recency α :=
  match l.items.get? key with
  | none => (none, l)
  | some item =>
    if item.isLive now then
      (some item.value, { l with items := (key, item) :: l.items.remove key })
    else (none, { l with items := l.items.remove key })

/-- The list without what has expired. -/
def dropExpired (l : Recency α) (now : ℕ) : Recency α :=
  { l with items := l.items.filter fun p => p.2.isLive now }

/-- The list without its last value. -/
def dropLast (l : Recency α) : Recency α :=
  { l with items := l.items.dropLast }

/-- The list with room for one more value. -/
def makeRoom (l : Recency α) (now : ℕ) : Recency α :=
  let l := l.dropExpired now
  if l.capacity ≤ l.items.length then l.dropLast else l

/-- Puts a value in front at the time `now`, once room was made for it at the time `roomAt` if there
was none. A list without any room takes none. -/
def insert (l : Recency α) (roomAt now : ℕ) (key : String) (value : α) : Recency α :=
  if l.capacity = 0 then l
  else
    let l := if !l.items.has key && l.capacity ≤ l.items.length then l.makeRoom roomAt else l
    { l with items := (key, ⟨value, now + l.ttl⟩) :: l.items.remove key }

end Recency

namespace ExpiringMap

variable {α : Type} {bound now : ℕ} {d entries : Dictionary (Entry α)} {m : ExpiringMap α}
  {l : Recency α}

/-! ### Entries sorted by their last use -/

/-- Entries with different keys, sorted by their last use, the last of them in front and before
`bound`. -/
structure InOrder (bound : ℕ) (d : Dictionary (Entry α)) : Prop where
  once : d.Once
  sorted : d.Pairwise fun p q => q.2.lastUsed < p.2.lastUsed
  lt_bound : ∀ p ∈ d, p.2.lastUsed < bound

/-- Some of the entries are in order too. -/
lemma InOrder.sublist {d' : Dictionary (Entry α)} (h : InOrder bound d) (hsub : d'.Sublist d) :
    InOrder bound d' where
  once := (hsub.map Prod.fst).nodup h.once
  sorted := h.sorted.sublist hsub
  lt_bound := fun p hp => h.lt_bound p (hsub.subset hp)

/-- Uses before a time are before a later one. -/
lemma InOrder.mono {bound' : ℕ} (h : InOrder bound d) (hle : bound ≤ bound') :
    InOrder bound' d where
  once := h.once
  sorted := h.sorted
  lt_bound := fun p hp => (h.lt_bound p hp).trans_le hle

/-- The entries without a key, and the entry of this key in front, used now. -/
lemma InOrder.cons {e : Entry α} {key : String} (h : InOrder bound d) (hbound : bound ≤ now)
    (hused : e.lastUsed = now) : InOrder (now + 1) ((key, e) :: d.remove key) := by
  have hrest : InOrder bound (d.remove key) := h.sublist List.filter_sublist
  refine ⟨List.nodup_cons.mpr ⟨?_, hrest.once⟩, List.pairwise_cons.mpr ⟨?_, hrest.sorted⟩, ?_⟩
  · intro hmem
    obtain ⟨p, hp, hkey⟩ := List.mem_map.mp hmem
    exact of_decide_eq_true (List.mem_filter.mp hp).2 hkey
  · intro p hp
    have hp := hrest.lt_bound p hp
    dsimp only
    omega
  · intro p hp
    rcases List.mem_cons.mp hp with rfl | hp
    · dsimp only
      omega
    · have hp := hrest.lt_bound p hp
      omega

/-- The oldest entry is one that was used no later than any. -/
lemma exists_oldest?_eq (hne : entries ≠ []) : ∃ p ∈ entries,
    oldest? entries = some (p.1, p.2.lastUsed) ∧ ∀ q ∈ entries, p.2.lastUsed ≤ q.2.lastUsed := by
  induction entries with
  | nil => exact absurd rfl hne
  | cons p rest ih =>
    rcases eq_or_ne rest [] with rfl | hrest
    · exact ⟨p, List.mem_cons_self, rfl, by simp⟩
    · obtain ⟨q, hq, holdest, hle⟩ := ih hrest
      by_cases hlt : q.2.lastUsed < p.2.lastUsed
      · refine ⟨q, List.mem_cons_of_mem p hq, ?_, ?_⟩
        · simp only [oldest?, holdest, hlt, if_true]
        · exact List.forall_mem_cons.mpr ⟨hlt.le, hle⟩
      · refine ⟨p, List.mem_cons_self, ?_, ?_⟩
        · simp only [oldest?, holdest, hlt, if_false]
        · refine List.forall_mem_cons.mpr ⟨le_rfl, fun r hr => ?_⟩
          have hr := hle r hr
          omega

/-- Taking out the oldest entry takes out the last of the entries in order. -/
lemma perm_dropOldest (h : InOrder bound d) (hperm : d.Perm m.entries) :
    d.dropLast.Perm m.dropOldest.entries := by
  rcases List.eq_nil_or_concat d with rfl | ⟨init, last, rfl⟩
  · have hnil : m.entries = [] := hperm.nil_eq.symm
    rw [dropOldest, hnil]
    simp only [oldest?, List.dropLast_nil, hnil, List.Perm.refl]
  · rw [List.concat_eq_append] at h hperm ⊢
    obtain ⟨p, hp, holdest, hle⟩ := exists_oldest?_eq
      (List.ne_nil_of_mem (hperm.mem_iff.mp (List.mem_append_right init List.mem_cons_self)))
    -- the last of the entries in order was used before all others, so it is the oldest
    have hlast : p = last := by
      rcases List.mem_append.mp (hperm.mem_iff.mpr hp) with hinit | hlast
      · have hlt := (List.pairwise_append.mp h.sorted).2.2 p hinit last List.mem_cons_self
        have hge := hle last (hperm.mem_iff.mp (List.mem_append_right init List.mem_cons_self))
        omega
      · exact List.mem_singleton.mp hlast
    have hnot : ∀ q ∈ init, q.1 ≠ last.1 := by
      intro q hq
      have honce := h.once
      rw [Dictionary.Once, List.map_append] at honce
      exact (List.nodup_append.mp honce).2.2 q.1 (List.mem_map_of_mem hq) last.1 (by simp)
    have hremove : Dictionary.remove (init ++ [last]) last.1 = init := by
      rw [Dictionary.remove, List.filter_append, ← Dictionary.remove,
        Dictionary.remove_eq_self hnot, List.filter_cons_of_neg (by simp), List.filter_nil,
        List.append_nil]
    have hrest : (Dictionary.remove (init ++ [last]) last.1).Perm
        (Dictionary.remove m.entries last.1) := hperm.filter _
    rw [hremove] at hrest
    rw [dropOldest, holdest, hlast, List.dropLast_concat]
    exact hrest

/-! ### The map and the list -/

/-- A map is tracked by a list when its entries, sorted by their last use, are the list. All uses
were before `bound`. -/
def Tracks (bound : ℕ) (m : ExpiringMap α) (l : Recency α) : Prop :=
  m.capacity = l.capacity ∧ m.ttl = l.ttl ∧ ∃ d : Dictionary (Entry α), InOrder bound d ∧
    d.Perm m.entries ∧ l.items = d.map fun p => (p.1, p.2.item)

/-- A map without entries is tracked by a list without values. -/
lemma tracks_empty (bound capacity ttl : ℕ) :
    Tracks bound (empty capacity ttl : ExpiringMap α) (.empty capacity ttl) :=
  ⟨rfl, rfl, [], ⟨List.nodup_nil, .nil, by simp⟩, .refl _, rfl⟩

/-- A map that is tracked up to a time is tracked up to a later one. -/
lemma Tracks.mono {bound' : ℕ} (h : Tracks bound m l) (hle : bound ≤ bound') :
    Tracks bound' m l := by
  obtain ⟨hcapacity, httl, d, horder, hperm, hitems⟩ := h
  exact ⟨hcapacity, httl, d, horder.mono hle, hperm, hitems⟩

/-- The list is as long as the map. -/
lemma Tracks.size_eq (h : Tracks bound m l) : m.size = l.items.length := by
  obtain ⟨-, -, d, -, hperm, hitems⟩ := h
  rw [size, hitems, List.length_map, hperm.length_eq]

/-- What the map has for a key stands in the list. -/
lemma Tracks.get?_items (h : Tracks bound m l) (key : String) :
    l.items.get? key = (m.entries.get? key).map Entry.item := by
  obtain ⟨-, -, d, horder, hperm, hitems⟩ := h
  rw [hitems, Dictionary.get?_map, Dictionary.get?_eq_of_perm horder.once hperm key]

/-- Taking a key out of both. -/
lemma Tracks.remove (h : Tracks bound m l) (key : String) :
    Tracks bound { m with entries := m.entries.remove key }
      { l with items := l.items.remove key } := by
  obtain ⟨hcapacity, httl, d, horder, hperm, hitems⟩ := h
  refine ⟨hcapacity, httl, d.remove key, horder.sublist List.filter_sublist, hperm.filter _, ?_⟩
  dsimp only
  rw [hitems, Dictionary.remove_map]

/-- Giving a key an entry that is used now, and its item the place in front. -/
lemma Tracks.put (h : Tracks bound m l) (hnow : bound ≤ now) (key : String) {e : Entry α}
    (hused : e.lastUsed = now) :
    Tracks (now + 1) { m with entries := m.entries.put key e }
      { l with items := (key, e.item) :: l.items.remove key } := by
  obtain ⟨hcapacity, httl, d, horder, hperm, hitems⟩ := h
  have hput := Dictionary.put_perm ((hperm.map Prod.fst).nodup_iff.mp horder.once) key e
  have hrest : (d.remove key).Perm (m.entries.remove key) := hperm.filter _
  refine ⟨hcapacity, httl, (key, e) :: d.remove key, horder.cons hnow hused,
    (hrest.cons _).trans hput.symm, ?_⟩
  dsimp only
  rw [hitems, Dictionary.remove_map, List.map_cons]

/-- Taking out what has expired. -/
lemma Tracks.dropExpired (h : Tracks bound m l) (now : ℕ) :
    Tracks bound (m.dropExpired now) (l.dropExpired now) := by
  obtain ⟨hcapacity, httl, d, horder, hperm, hitems⟩ := h
  refine ⟨hcapacity, httl, d.filter fun p => p.2.isLive now, horder.sublist List.filter_sublist,
    hperm.filter _, ?_⟩
  rw [Recency.dropExpired, hitems, List.filter_map]
  rfl

/-- Taking out the oldest entry takes out the last item. -/
lemma Tracks.dropOldest (h : Tracks bound m l) : Tracks bound m.dropOldest l.dropLast := by
  obtain ⟨hcapacity, httl, d, horder, hperm, hitems⟩ := h
  have hsame : m.dropOldest.capacity = m.capacity ∧ m.dropOldest.ttl = m.ttl := by
    rw [ExpiringMap.dropOldest]
    split <;> exact ⟨rfl, rfl⟩
  refine ⟨hsame.1.trans hcapacity, hsame.2.trans httl, d.dropLast,
    horder.sublist (List.dropLast_sublist d), perm_dropOldest horder hperm, ?_⟩
  rw [Recency.dropLast, hitems, List.map_dropLast]

/-- Making room for an entry makes room for an item. -/
lemma Tracks.makeRoom (h : Tracks bound m l) (now : ℕ) :
    Tracks bound (m.makeRoom now) (l.makeRoom now) := by
  have hlive := h.dropExpired now
  rw [ExpiringMap.makeRoom, Recency.makeRoom, hlive.1, hlive.size_eq]
  split
  · exact hlive.dropOldest
  · exact hlive

/-- **Looking up.** The map and the list give the same, and the list goes on tracking the map. -/
theorem Tracks.get? (h : Tracks bound m l) (hnow : bound ≤ now) (key : String) :
    (m.get? now key).1 = (l.get? now key).1 ∧
      Tracks (now + 1) (m.get? now key).2 (l.get? now key).2 := by
  have hle : bound ≤ now + 1 := by omega
  rw [ExpiringMap.get?, Recency.get?, h.get?_items]
  cases m.entries.get? key with
  | none => exact ⟨rfl, h.mono hle⟩
  | some e =>
    have hlive : e.item.isLive now = e.isLive now := rfl
    simp only [Option.map_some, hlive]
    cases e.isLive now with
    | true => exact ⟨rfl, h.put hnow key rfl⟩
    | false => exact ⟨rfl, (h.remove key).mono hle⟩

/-- **Putting in.** The list goes on tracking the map, whenever room is made. -/
theorem Tracks.insert (h : Tracks bound m l) (roomAt : ℕ) (hnow : bound ≤ now) (key : String)
    (value : α) :
    Tracks (now + 1) (m.insert roomAt now key value) (l.insert roomAt now key value) := by
  have hle : bound ≤ now + 1 := by omega
  have hhas : l.items.has key = m.entries.has key := by
    rw [Dictionary.has, Dictionary.has, h.get?_items, Option.isSome_map]
  have hput : ∀ {m' : ExpiringMap α} {l' : Recency α} {overran : Bool}, Tracks bound m' l' →
      Tracks (now + 1) ⟨m'.capacity, m'.ttl, m'.entries.put key ⟨value, now, now + m'.ttl⟩, overran⟩
        { l' with items := (key, ⟨value, now + l'.ttl⟩) :: l'.items.remove key } := by
    intro m' l' overran h'
    have hused : (⟨value, now, now + m'.ttl⟩ : Entry α).lastUsed = now := rfl
    have hitem : (⟨value, now, now + m'.ttl⟩ : Entry α).item = ⟨value, now + l'.ttl⟩ := by
      rw [Entry.item, h'.2.1]
    rw [← hitem]
    exact h'.put hnow key hused
  rw [ExpiringMap.insert, Recency.insert, lacksRoom, hhas, h.1, h.size_eq]
  split
  · exact h.mono hle
  · refine hput ?_
    split
    · exact h.makeRoom roomAt
    · exact h

end ExpiringMap

end Retrace
