import Mathlib
import Retrace.Text.Composition
import Retrace.Text.LowerCase

/-!
# Capitals of ASCII

A text in lower case has no capital of ASCII (`not_isUpper_of_mem_lowerCase`), and its composed form
has none either (`not_isUpper_of_mem_compose`): no character is taken apart into a capital, and none
is put together to one.
-/

namespace Retrace

namespace Text

variable {n : ℕ} {c : Char} {text : List Char}

/-- A code point of a capital of ASCII. -/
def IsCapital (n : ℕ) : Prop :=
  0x41 ≤ n ∧ n ≤ 0x5A

instance : DecidablePred IsCapital := fun n => inferInstanceAs (Decidable (0x41 ≤ n ∧ n ≤ 0x5A))

/-- Capitals are told by their code points. -/
lemma isUpper_iff : c.isUpper ↔ IsCapital c.toNat := by
  simp [Char.isUpper, UInt32.le_iff_toNat_le, ← Char.toNat_val, IsCapital]

/-- A code point of no capital gives no capital, not even where it is no valid one. -/
lemma not_isUpper_ofNat (h : ¬ IsCapital n) : (Char.ofNat n).isUpper = false := by
  rw [Bool.eq_false_iff, ne_eq, isUpper_iff]
  by_cases hvalid : n.isValidChar
  · rwa [Char.toNat_ofNat, if_pos hvalid]
  · rw [Char.toNat_ofNat, if_neg hvalid]
    decide

/-! ### Lower case -/

/-- The runs of the table of cases lead behind the capitals of ASCII. -/
lemma caseRuns_lt : ∀ runs ∈ caseRuns, ∀ run ∈ runs, 0x5A < run.2.2.2 := by decide

/-- So do the runs of letters with an iota. -/
lemma iotaRuns_lt : ∀ run ∈ iotaRuns, 0x5A < run.2.2 := by decide

/-- Past ASCII, lower case keeps behind the capitals. -/
lemma lt_lowerCode (h : 0x5A < n) : 0x5A < lowerCode n := by
  unfold lowerCode
  split
  · next run hrun =>
    obtain ⟨runs, hruns, hfind⟩ := List.exists_of_findSome?_eq_some hrun
    exact Nat.lt_add_right _ (caseRuns_lt runs hruns run (List.mem_of_find?_eq_some hfind))
  · exact h

/-- **Lower case has no capital.** -/
theorem not_isUpper_of_mem_lowerCase {d : Char} (h : d ∈ lowerCase c) : d.isUpper = false := by
  have hbehind : ∀ {m : ℕ}, 0x5A < m → (Char.ofNat m).isUpper = false := fun hm =>
    not_isUpper_ofNat fun hcapital => absurd hcapital.2 (not_le.mpr hm)
  unfold lowerCase at h
  dsimp only at h
  split at h
  · rw [List.mem_singleton.mp h]
    exact Char.isUpper_toLower_eq_false c
  · next hascii =>
    split at h
    · fin_cases h <;> rfl
    · split at h
      · next run hrun =>
        rcases List.mem_cons.mp h with rfl | h
        · exact hbehind (Nat.lt_add_right _ (iotaRuns_lt run (List.mem_of_find?_eq_some hrun)))
        · rw [List.mem_singleton.mp h]
          rfl
      · rw [List.mem_singleton.mp h]
        exact hbehind (lt_lowerCode (by omega))

/-! ### The composed form -/

/-- The table of compositions has no capital of ASCII, neither whole nor as a part. -/
lemma pairs_not_capital : ∀ list ∈ pairs, ∀ p ∈ list,
    ¬ IsCapital p.1 ∧ ¬ IsCapital p.2.1 ∧ ¬ IsCapital p.2.2 := by
  decide +kernel

/-- The syllables come long after ASCII. -/
lemma le_of_isSyllable (h : isSyllable n = true) : 0xAC00 ≤ n := by
  rw [isSyllable, Bool.and_eq_true, decide_eq_true_iff] at h
  exact h.1

/-- A character is not taken apart into a capital. -/
lemma not_isCapital_parts {a b : ℕ} (h : parts? n = some (a, b)) :
    ¬ IsCapital a ∧ ¬ IsCapital b := by
  unfold parts? at h
  split at h
  · next hsyllable =>
    have hle := le_of_isSyllable hsyllable
    unfold syllableParts at h
    unfold IsCapital
    dsimp only at h
    split at h
    all_goals
      obtain ⟨rfl, rfl⟩ := Prod.mk.inj (Option.some.inj h)
      simp only [firstLead, firstVowel, noTail, tailCount, vowelCount, firstSyllable]
      omega
  · obtain ⟨p, hp, heq⟩ := Option.map_eq_some_iff.mp h
    obtain ⟨rfl, rfl⟩ := Prod.mk.inj heq
    obtain ⟨list, hlist, hfind⟩ := List.exists_of_findSome?_eq_some hp
    have hpair := pairs_not_capital list hlist p (List.mem_of_find?_eq_some hfind)
    exact ⟨hpair.1, hpair.2.1⟩

/-- Two characters do not make a capital together. -/
lemma not_isCapital_whole {a b : ℕ} (h : whole? a b = some n) : ¬ IsCapital n := by
  unfold whole? at h
  split at h
  · next m hm =>
    obtain rfl := Option.some.inj h
    unfold syllable? at hm
    unfold IsCapital
    split at hm
    · obtain rfl := Option.some.inj hm
      simp only [firstSyllable]
      omega
    · split at hm
      · next hopen =>
        obtain rfl := Option.some.inj hm
        simp only [isOpenSyllable, Bool.and_eq_true] at hopen
        have hsyllable := le_of_isSyllable hopen.1.1.1
        omega
      · cases hm
  · obtain ⟨p, hp, rfl⟩ := Option.map_eq_some_iff.mp h
    obtain ⟨list, hlist, hfind⟩ := List.exists_of_findSome?_eq_some hp
    exact (pairs_not_capital list hlist p (List.mem_of_find?_eq_some hfind)).2.2

/-- Taking a character apart as far as it goes gives no capital. -/
lemma not_isCapital_takeApart (h : ¬ IsCapital n) (times : ℕ) :
    ∀ m ∈ takeApart n times, ¬ IsCapital m := by
  induction times generalizing n with
  | zero => simpa [takeApart] using h
  | succ times ih =>
    rw [takeApart]
    split
    · next a b hparts =>
      obtain ⟨ha, hb⟩ := not_isCapital_parts hparts
      intro m hm
      rcases List.mem_append.mp hm with hm | hm
      · exact ih ha m hm
      · rwa [List.mem_singleton.mp hm]
    · simpa using h

/-- What is there after a mark was put in its place. -/
lemma mem_insertMark {m : ℕ} {before : List ℕ} (h : m ∈ insertMark n before) :
    m = n ∨ m ∈ before := by
  induction before with
  | nil => simpa [insertMark] using h
  | cons last before ih =>
    rw [insertMark] at h
    split at h
    · rcases List.mem_cons.mp h with rfl | h
      · exact .inr List.mem_cons_self
      · exact (ih h).imp_right (List.mem_cons_of_mem last)
    · exact List.mem_cons.mp h

/-- What is there after several marks were put in their places. -/
lemma mem_foldl_insertMark {m : ℕ} {list before : List ℕ}
    (h : m ∈ list.foldl (fun before n => insertMark n before) before) : m ∈ list ∨ m ∈ before := by
  induction list generalizing before with
  | nil => exact .inr h
  | cons first list ih =>
    rcases ih h with h | h
    · exact .inl (List.mem_cons_of_mem first h)
    · rcases mem_insertMark h with rfl | h
      · exact .inl List.mem_cons_self
      · exact .inr h

/-- Putting together brings no capital in. -/
lemma not_isCapital_step {s : Composing} (hs : ∀ m ∈ s.all, ¬ IsCapital m) (hn : ¬ IsCapital n) :
    ∀ m ∈ (s.step n).all, ¬ IsCapital m := by
  simp only [Composing.all, List.mem_append, Option.mem_toList] at hs
  intro m hm
  unfold Composing.step at hm
  split at hm
  · next whole hwhole =>
    simp only [Composing.all, List.mem_append, Option.mem_toList] at hm
    rcases hm with (hm | hm) | hm
    · exact hs m (.inl (.inl hm))
    · obtain rfl := Option.some.inj hm
      obtain ⟨letter, -, hletter⟩ := Option.bind_eq_some_iff.mp hwhole
      split at hletter
      · exact not_isCapital_whole hletter
      · cases hletter
    · exact hs m (.inr hm)
  · split at hm
    · simp only [Composing.all, List.mem_append, Option.mem_toList, List.not_mem_nil,
        false_or] at hm
      rcases hm with hm | hm
      · obtain rfl := Option.some.inj hm
        exact hn
      · exact hs m hm
    · simp only [Composing.all, List.mem_append, List.mem_cons, Option.mem_toList] at hm
      rcases hm with ((rfl | hm) | hm) | hm
      · exact hn
      · exact hs m (.inl (.inl hm))
      · exact hs m (.inl (.inr hm))
      · exact hs m (.inr hm)

/-- Putting a whole text together brings no capital in. -/
lemma not_isCapital_foldl_step {list : List ℕ} {s : Composing}
    (hlist : ∀ m ∈ list, ¬ IsCapital m) (hs : ∀ m ∈ s.all, ¬ IsCapital m) :
    ∀ m ∈ (list.foldl Composing.step s).all, ¬ IsCapital m := by
  induction list generalizing s with
  | nil => exact hs
  | cons n list ih =>
    obtain ⟨hn, hlist⟩ := List.forall_mem_cons.mp hlist
    exact ih hlist (not_isCapital_step hs hn)

/-- **Composing brings no capital in.** -/
theorem not_isUpper_of_mem_compose (htext : ∀ c ∈ text, c.isUpper = false) (h : c ∈ compose text) :
    c.isUpper = false := by
  unfold compose at h
  obtain ⟨n, hn, rfl⟩ := List.mem_map.mp h
  apply not_isUpper_ofNat
  refine not_isCapital_foldl_step (fun m hm => ?_) (by simp [Composing.all]) n
    (List.mem_reverse.mp hn)
  rcases mem_foldl_insertMark (List.mem_reverse.mp hm) with hm | hm
  · obtain ⟨c, hc, hm⟩ := List.mem_flatMap.mp hm
    refine not_isCapital_takeApart ?_ depth m hm
    rw [← isUpper_iff, htext c hc]
    decide
  · cases hm

end Text

end Retrace
