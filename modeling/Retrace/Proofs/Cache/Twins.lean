import Mathlib
import Retrace.Proofs.Cache.Recency

/-!
# Two maps in step

Two maps that forget are used in the same way, each by the readings of its own clock. They answer
alike as long as the clocks cannot tell their entries apart (`Twins.get?`, `Twins.insert`): an entry
counts for no reading to come in either of them, or for all readings to come in both. This is so
when entries expire at once, and when they outlast both clocks.

What the readings themselves are does not matter. The order in which entries were used is the same
in both maps, and so is what is given up.
-/

namespace Retrace

/-- The readings of a clock that are still to come. -/
structure Span where
  start : ℕ
  stop : ℕ

/-- A reading is one of those to come. -/
def Span.Has (r : Span) (now : ℕ) : Prop :=
  r.start ≤ now ∧ now < r.stop

namespace Recency

variable {α : Type} {r r' : Span} {n n' b b' : ℕ} {p q : String × Item α} {d d' : Dictionary (Item α)}
  {l l' : Recency α}

/-! ### Lists in step -/

/-- Items with the same key and value, which count for no reading to come or for all of them. -/
structure AlikeItem (r r' : Span) (p q : String × Item α) : Prop where
  key : q.1 = p.1
  value : q.2.value = p.2.value
  expiry : p.2.expiresAt ≤ r.start ∧ q.2.expiresAt ≤ r'.start ∨
    r.stop ≤ p.2.expiresAt ∧ r'.stop ≤ q.2.expiresAt

/-- Lists with alike items in the same order. -/
structure Alike (r r' : Span) (l l' : Recency α) : Prop where
  capacity : l'.capacity = l.capacity
  ttl : l'.ttl = l.ttl
  /-- What is put in from now on expires at once or lasts. -/
  lasting : l.ttl = 0 ∨ r.stop ≤ r.start + l.ttl ∧ r'.stop ≤ r'.start + l.ttl
  items : List.Forall₂ (AlikeItem r r') l.items l'.items

/-- No reading tells alike items apart. -/
lemma AlikeItem.isLive_eq (h : AlikeItem r r' p q) (hn : r.Has n) (hn' : r'.Has n') :
    q.2.isLive n' = p.2.isLive n := by
  obtain ⟨hstart, hstop⟩ := hn
  obtain ⟨hstart', hstop'⟩ := hn'
  rw [Item.isLive, Item.isLive, decide_eq_decide]
  rcases h.expiry with ⟨hover, hover'⟩ | ⟨hlast, hlast'⟩
  · omega
  · omega

/-- Alike items stay alike. -/
lemma AlikeItem.later {start start' : ℕ} (h : AlikeItem r r' p q) (hle : r.start ≤ start)
    (hle' : r'.start ≤ start') : AlikeItem ⟨start, r.stop⟩ ⟨start', r'.stop⟩ p q where
  key := h.key
  value := h.value
  expiry := h.expiry.imp_left fun ⟨hover, hover'⟩ => ⟨hover.trans hle, hover'.trans hle'⟩

/-- Alike lists stay alike. -/
lemma Alike.later {start start' : ℕ} (h : Alike r r' l l') (hle : r.start ≤ start)
    (hle' : r'.start ≤ start') : Alike ⟨start, r.stop⟩ ⟨start', r'.stop⟩ l l' where
  capacity := h.capacity
  ttl := h.ttl
  lasting := by
    rcases h.lasting with hzero | ⟨hlast, hlast'⟩
    · exact .inl hzero
    · exact .inr ⟨by dsimp only; omega, by dsimp only; omega⟩
  items := h.items.imp fun _ _ hitem => hitem.later hle hle'

/-- What two dictionaries of alike items have for a key is alike. -/
lemma rel_get? (h : List.Forall₂ (AlikeItem r r') d d') (key : String) :
    Option.Rel (fun item item' => AlikeItem r r' (key, item) (key, item')) (d.get? key)
      (d'.get? key) := by
  induction h with
  | nil => exact .none
  | @cons p q rest rest' hitem _ ih =>
    rw [Dictionary.get?, Dictionary.get?, hitem.key]
    split
    · next hkey => exact .some ⟨rfl, hitem.value, hitem.expiry⟩
    · exact ih

/-- Alike items without those of a key. -/
lemma forall₂_remove (h : List.Forall₂ (AlikeItem r r') d d') (key : String) :
    List.Forall₂ (AlikeItem r r') (d.remove key) (d'.remove key) := by
  have hkey : ∀ p q : String × Item α, AlikeItem r r' p q →
      (decide (p.1 ≠ key) = true ↔ decide (q.1 ≠ key) = true) := by
    intro p q hitem
    rw [hitem.key]
  exact List.rel_filter (fun p q => hkey p q) h

/-- Alike lists without what has expired. -/
lemma Alike.dropExpired (h : Alike r r' l l') (hn : r.Has n) (hn' : r'.Has n') :
    Alike r r' (l.dropExpired n) (l'.dropExpired n') where
  capacity := h.capacity
  ttl := h.ttl
  lasting := h.lasting
  items := by
    have hlive : ∀ p q : String × Item α, AlikeItem r r' p q →
        (p.2.isLive n = true ↔ q.2.isLive n' = true) := by
      intro p q hitem
      rw [hitem.isLive_eq hn hn']
    exact List.rel_filter (fun p q => hlive p q) h.items

/-- Alike lists without their last items. -/
lemma Alike.dropLast (h : Alike r r' l l') : Alike r r' l.dropLast l'.dropLast where
  capacity := h.capacity
  ttl := h.ttl
  lasting := h.lasting
  items := by
    rw [Recency.dropLast, Recency.dropLast, List.dropLast_eq_take, List.dropLast_eq_take,
      h.items.length_eq]
    exact List.forall₂_take _ h.items

/-- Alike lists with room for one more value. -/
lemma Alike.makeRoom (h : Alike r r' l l') (hn : r.Has n) (hn' : r'.Has n') :
    Alike r r' (l.makeRoom n) (l'.makeRoom n') := by
  have hlive := h.dropExpired hn hn'
  rw [Recency.makeRoom, Recency.makeRoom, hlive.capacity, hlive.items.length_eq]
  split
  · exact hlive.dropLast
  · exact hlive

/-- Alike lists give the same and stay alike. -/
lemma Alike.get? (h : Alike r r' l l') (hn : r.Has n) (hn' : r'.Has n') (key : String) :
    (l'.get? n' key).1 = (l.get? n key).1 ∧
      Alike r r' (l.get? n key).2 (l'.get? n' key).2 := by
  have hremove := forall₂_remove h.items key
  have hrel := rel_get? h.items key
  rw [Recency.get?, Recency.get?]
  generalize l.items.get? key = found at hrel
  generalize l'.items.get? key = found' at hrel
  cases hrel with
  | none => exact ⟨rfl, h⟩
  | @some item item' hitem =>
    have hlive : item'.isLive n' = item.isLive n := hitem.isLive_eq hn hn'
    simp only [hlive]
    cases item.isLive n with
    | true =>
      exact ⟨congrArg some hitem.value, h.capacity, h.ttl, h.lasting, hremove.cons hitem⟩
    | false => exact ⟨rfl, h.capacity, h.ttl, h.lasting, hremove⟩

/-- Alike lists stay alike when the same is put into both. -/
lemma Alike.insert (h : Alike r r' l l') (hb : r.Has b) (hb' : r'.Has b') (hn : r.Has n)
    (hn' : r'.Has n') (key : String) (value : α) :
    Alike ⟨n + 1, r.stop⟩ ⟨n' + 1, r'.stop⟩ (l.insert b n key value)
      (l'.insert b' n' key value) := by
  obtain ⟨hstart, hstop⟩ := hn
  obtain ⟨hstart', hstop'⟩ := hn'
  have hhas : l'.items.has key = l.items.has key := by
    have hrel := rel_get? h.items key
    rw [Dictionary.has, Dictionary.has]
    generalize l.items.get? key = found at hrel
    generalize l'.items.get? key = found' at hrel
    cases hrel with
    | none => rfl
    | some _ => rfl
  have hput : ∀ {k k' : Recency α}, Alike r r' k k' → Alike ⟨n + 1, r.stop⟩ ⟨n' + 1, r'.stop⟩
      { k with items := (key, ⟨value, n + k.ttl⟩) :: k.items.remove key }
      { k' with items := (key, ⟨value, n' + k'.ttl⟩) :: k'.items.remove key } := by
    intro k k' hk
    have hlater : Alike ⟨n + 1, r.stop⟩ ⟨n' + 1, r'.stop⟩ k k' :=
      hk.later (by omega) (by omega)
    refine ⟨hk.capacity, hk.ttl, hlater.lasting, .cons ⟨rfl, rfl, ?_⟩
      (forall₂_remove hlater.items key)⟩
    have httl := hk.ttl
    dsimp only
    rcases hk.lasting with hzero | ⟨hlast, hlast'⟩
    · exact .inl ⟨by omega, by omega⟩
    · exact .inr ⟨by omega, by omega⟩
  rw [Recency.insert, Recency.insert, hhas, h.capacity, h.items.length_eq]
  split
  · exact h.later (by omega) (by omega)
  · refine hput ?_
    split
    · exact h.makeRoom hb hb'
    · exact h

end Recency

namespace ExpiringMap

variable {α : Type} {r r' : Span} {n n' b b' : ℕ} {m m' : ExpiringMap α}

/-! ### Maps in step -/

/-- Maps whose entries, in the order of their last use, are alike. -/
def Twins (r r' : Span) (m m' : ExpiringMap α) : Prop :=
  ∃ l l', Tracks r.start m l ∧ Tracks r'.start m' l' ∧ l.Alike r r' l'

/-- Maps without entries are twins if entries expire at once or outlast the clocks. -/
lemma twins_empty (capacity : ℕ) {ttl : ℕ}
    (hlasting : ttl = 0 ∨ r.stop ≤ r.start + ttl ∧ r'.stop ≤ r'.start + ttl) :
    Twins r r' (empty capacity ttl : ExpiringMap α) (empty capacity ttl) :=
  ⟨_, _, tracks_empty _ _ _, tracks_empty _ _ _, rfl, rfl, hlasting, .nil⟩

/-- Twins stay twins. -/
lemma Twins.later {start start' : ℕ} (h : Twins r r' m m') (hle : r.start ≤ start)
    (hle' : r'.start ≤ start') : Twins ⟨start, r.stop⟩ ⟨start', r'.stop⟩ m m' := by
  obtain ⟨l, l', htracks, htracks', halike⟩ := h
  exact ⟨l, l', htracks.mono hle, htracks'.mono hle', halike.later hle hle'⟩

/-- Twins give the same and stay twins. -/
theorem Twins.get? (h : Twins r r' m m') (hn : r.Has n) (hn' : r'.Has n') (key : String) :
    (m'.get? n' key).1 = (m.get? n key).1 ∧
      Twins ⟨n + 1, r.stop⟩ ⟨n' + 1, r'.stop⟩ (m.get? n key).2 (m'.get? n' key).2 := by
  obtain ⟨l, l', htracks, htracks', halike⟩ := h
  obtain ⟨hget, hnext⟩ := htracks.get? hn.1 key
  obtain ⟨hget', hnext'⟩ := htracks'.get? hn'.1 key
  obtain ⟨hsame, halikeNext⟩ := halike.get? hn hn' key
  have hle : r.start ≤ n + 1 := hn.1.trans (Nat.le_succ n)
  have hle' : r'.start ≤ n' + 1 := hn'.1.trans (Nat.le_succ n')
  exact ⟨hget'.trans (hsame.trans hget.symm), _, _, hnext, hnext', halikeNext.later hle hle'⟩

/-- Twins stay twins when the same is put into both. -/
theorem Twins.insert (h : Twins r r' m m') (hb : r.Has b) (hb' : r'.Has b') (hn : r.Has n)
    (hn' : r'.Has n') (key : String) (value : α) :
    Twins ⟨n + 1, r.stop⟩ ⟨n' + 1, r'.stop⟩ (m.insert b n key value)
      (m'.insert b' n' key value) := by
  obtain ⟨l, l', htracks, htracks', halike⟩ := h
  exact ⟨_, _, htracks.insert b hn.1 key value, htracks'.insert b' hn'.1 key value,
    halike.insert hb hb' hn hn' key value⟩

/-- Twins lack room for the same keys. -/
lemma Twins.lacksRoom_eq (h : Twins r r' m m') (key : String) :
    m'.capacity = m.capacity ∧ m'.lacksRoom key = m.lacksRoom key := by
  obtain ⟨l, l', htracks, htracks', halike⟩ := h
  have hhas : m'.entries.has key = m.entries.has key := by
    have hrel := Recency.rel_get? halike.items key
    have hget := htracks.get?_items key
    have hget' := htracks'.get?_items key
    rw [Dictionary.has, Dictionary.has, ← Option.isSome_map (f := Entry.item), ← hget',
      ← Option.isSome_map (f := Entry.item), ← hget]
    generalize l.items.get? key = found at hrel
    generalize l'.items.get? key = found' at hrel
    cases hrel with
    | none => rfl
    | some _ => rfl
  have hcapacity : m'.capacity = m.capacity := by
    rw [htracks'.1, halike.capacity, htracks.1]
  rw [lacksRoom, lacksRoom, hhas, hcapacity, htracks'.size_eq, htracks.size_eq,
    halike.items.length_eq]
  exact ⟨rfl, rfl⟩

end ExpiringMap

end Retrace
