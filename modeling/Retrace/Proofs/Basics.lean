import Mathlib

/-!
# Chains and keys

Two things that several readers share: a chain of readings that may each fail, and sorting by a
key. A sorted list is determined by what it holds of each key, in order (`eq_of_filter_key_eq`).
-/

namespace Retrace

/-- A chain of two readings succeeds if both do. -/
lemma bind_eq_ok_iff {ε α β : Type} {x : Except ε α} {f : α → Except ε β} {b : β} :
    (x >>= f) = .ok b ↔ ∃ a, x = .ok a ∧ f a = .ok b := by
  cases x <;> simp [bind, Except.bind]

/-- A chain of two readings fails if the first one does, or the second one behind it. -/
lemma bind_eq_error_iff {ε α β : Type} {x : Except ε α} {f : α → Except ε β} {e : ε} :
    (x >>= f) = .error e ↔ x = .error e ∨ ∃ a, x = .ok a ∧ f a = .error e := by
  cases x <;> simp [bind, Except.bind]

section Keys

variable {α κ : Type} [LinearOrder κ] (key : α → κ)

/-- Two sorted lists that hold the same elements of each key in the same order are equal. -/
lemma eq_of_filter_key_eq {l l' : List α} (hl : l.Pairwise fun a b => key a ≤ key b)
    (hl' : l'.Pairwise fun a b => key a ≤ key b)
    (h : ∀ k, l.filter (fun a => key a = k) = l'.filter (fun a => key a = k)) : l = l' := by
  induction l generalizing l' with
  | nil =>
    cases l' with
    | nil => rfl
    | cons b rest' => simpa using h (key b)
  | cons a rest ih =>
    cases l' with
    | nil => simpa using h (key a)
    | cons b rest' =>
      rw [List.pairwise_cons] at hl hl'
      -- Each head occurs in the other list, so that neither key is below the other.
      have ha : a ∈ b :: rest' := by
        have hmem : a ∈ (a :: rest).filter (fun c => key c = key a) := by simp
        rw [h] at hmem
        exact List.mem_of_mem_filter hmem
      have hb : b ∈ a :: rest := by
        have hmem : b ∈ (b :: rest').filter (fun c => key c = key b) := by simp
        rw [← h] at hmem
        exact List.mem_of_mem_filter hmem
      have hle : key a ≤ key b := by
        rcases List.mem_cons.mp hb with rfl | hb
        · exact le_rfl
        · exact hl.1 b hb
      have hge : key b ≤ key a := by
        rcases List.mem_cons.mp ha with rfl | ha
        · exact le_rfl
        · exact hl'.1 a ha
      have hkey : key b = key a := le_antisymm hge hle
      have hhead := h (key a)
      rw [List.filter_cons_of_pos (by simp), List.filter_cons_of_pos (by simp [hkey])] at hhead
      obtain ⟨rfl, -⟩ := List.cons.inj hhead
      have hrest : ∀ k, rest.filter (fun c => key c = k) = rest'.filter (fun c => key c = k) := by
        intro k
        have hk := h k
        by_cases hak : key a = k
        · rw [List.filter_cons_of_pos (by simpa using hak),
            List.filter_cons_of_pos (by simpa using hak)] at hk
          exact (List.cons.inj hk).2
        · rwa [List.filter_cons_of_neg (by simpa using hak),
            List.filter_cons_of_neg (by simpa using hak)] at hk
      rw [ih hl.2 hl'.2 hrest]

/-- Sorting by a key leaves the elements of any class that the order does not tell apart in their
order. -/
lemma filter_mergeSort {l : List α} {p : α → Bool}
    (hp : ∀ a b, p a → p b → key a ≤ key b) :
    (l.mergeSort fun a b => key a ≤ key b).filter p = l.filter p := by
  set sorted := l.mergeSort fun a b => key a ≤ key b with hsorted
  have hclass : (l.filter p).Pairwise fun a b => decide (key a ≤ key b) := by
    refine List.pairwise_of_forall_mem_list ?_
    intro a ha b hb
    exact decide_eq_true (hp a b (List.of_mem_filter ha) (List.of_mem_filter hb))
  have hsub : List.Sublist (l.filter p) sorted :=
    List.sublist_mergeSort (fun a b c hab hbc => by simp at hab hbc ⊢; exact hab.trans hbc)
      (fun a b => by simpa using le_total (key a) (key b)) hclass List.filter_sublist
  have hsub' : List.Sublist (l.filter p) (sorted.filter p) := by
    have hfilter := hsub.filter p
    simpa using hfilter
  have hperm : (sorted.filter p).Perm (l.filter p) := (List.mergeSort_perm l _).filter p
  exact (hsub'.eq_of_length hperm.length_eq.symm).symm

/-- Sorting by a key gives a list in the order of the key. -/
lemma pairwise_mergeSort_key (l : List α) :
    (l.mergeSort fun a b => key a ≤ key b).Pairwise fun a b => key a ≤ key b := by
  have h : (l.mergeSort fun a b => key a ≤ key b).Pairwise
      fun a b => decide (key a ≤ key b) = true :=
    List.pairwise_mergeSort (fun a b c hab hbc => by simp at hab hbc ⊢; exact hab.trans hbc)
      (fun a b => by simpa using le_total (key a) (key b)) l
  simpa using h

/-- A list that is sorted up to a bound starts with what does not exceed it. -/
lemma takeWhile_le_eq_filter {l : List α} (hl : l.Pairwise fun a b => key a ≤ key b) (k : κ) :
    l.takeWhile (fun a => key a ≤ k) = l.filter (fun a => key a ≤ k) := by
  induction l with
  | nil => rfl
  | cons a rest ih =>
    rw [List.pairwise_cons] at hl
    by_cases hak : key a ≤ k
    · rw [List.takeWhile_cons_of_pos (by simpa using hak),
        List.filter_cons_of_pos (by simpa using hak), ih hl.2]
    · have hnone : rest.filter (fun b => key b ≤ k) = [] := by
        rw [List.filter_eq_nil_iff]
        intro b hb
        have hlt : k < key b := (not_le.mp hak).trans_le (hl.1 b hb)
        simpa using hlt
      rw [List.takeWhile_cons_of_neg (by simpa using hak),
        List.filter_cons_of_neg (by simpa using hak), hnone]

end Keys

end Retrace
