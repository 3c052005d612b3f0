import Mathlib
import Retrace.Proofs.Basics
import Retrace.Proofs.SourceMap.Written

/-!
# The order of segments

The segments of decoded mappings stand in the order of their places in the generated file, by line
and then by column, and segments of one place stand in the order in which they are written. A list
with these two properties is determined by what is written (`eq_of_filter_key_eq`), so that sorting
each line by itself, as `Mappings.decode?` does, comes to the same as `sortByPlace`, a stable sort
of all written segments (`segments_eq_sortByPlace`).

In such a list `Mappings.find?` meets the *nearest* of the written segments, `IsNearest`: the one
with the greatest place that is not after the given one, and among several of this place the one
that is written last (`find?_eq_some_iff_isNearest`, `find?_eq_none_iff`).
-/

namespace Retrace

namespace Mappings

/-! ### Places -/

/-- A place in the generated file; places are ordered by line and then by column. -/
abbrev Place := ℕ ×ₗ ℕ

end Mappings

open Mappings in
/-- The place at which a segment starts. -/
def Segment.place (s : Segment) : Place := toLex (s.line, s.column)

namespace Mappings

/-- A segment starts by a place if its own place is not after it. -/
lemma startsBy_eq (s : Segment) (line column : ℕ) :
    s.startsBy line column = decide (s.place ≤ toLex (line, column)) := by
  rw [Bool.eq_iff_iff, decide_eq_true_iff, Segment.place, Prod.Lex.toLex_le_toLex]
  simp [Segment.startsBy]

/-- All segments in the order of their places, those of one place in the order in which they are
given. -/
def sortByPlace (segments : List Segment) : List Segment :=
  segments.mergeSort fun s t => s.place ≤ t.place

/-- Sorted segments are in the order of their places. -/
lemma pairwise_sortByPlace (segments : List Segment) :
    (sortByPlace segments).Pairwise fun s t => s.place ≤ t.place :=
  pairwise_mergeSort_key Segment.place segments

/-- Segments that are in order stay as they are. -/
lemma sortByPlace_of_pairwise {segments : List Segment}
    (h : segments.Pairwise fun s t => s.place ≤ t.place) : sortByPlace segments = segments :=
  List.mergeSort_of_pairwise (by simpa using h)

/-- The segments of a line in the sorted list are those of the given list, sorted by column. -/
lemma filter_line_sortByPlace (segments : List Segment) (line : ℕ) :
    (sortByPlace segments).filter (fun s => s.line = line) =
      (segments.filter fun s => s.line = line).mergeSort fun s t => s.column ≤ t.column := by
  refine eq_of_filter_key_eq Segment.place ?_ ?_ ?_
  · exact (pairwise_sortByPlace segments).filter _
  · have hsorted := pairwise_mergeSort_key Segment.column
      (segments.filter fun s => s.line = line)
    refine List.Pairwise.imp_of_mem ?_ hsorted
    intro s t hs ht hst
    have hsline : s.line = line := by simpa using List.of_mem_filter (List.mem_mergeSort.mp hs)
    have htline : t.line = line := by simpa using List.of_mem_filter (List.mem_mergeSort.mp ht)
    rw [Segment.place, Segment.place, Prod.Lex.toLex_le_toLex]
    exact Or.inr ⟨by rw [hsline, htline], hst⟩
  · intro place
    have hplace : ∀ s t : Segment, s.place = place → t.place = place → s.column ≤ t.column := by
      intro s t hs ht
      have heq : toLex (s.line, s.column) = toLex (t.line, t.column) := hs.trans ht.symm
      exact (congrArg (fun p => (ofLex p).2) heq).le
    rw [filter_mergeSort Segment.column (fun s t hs ht => hplace s t (by simpa using hs)
      (by simpa using ht)), List.filter_comm, sortByPlace,
      filter_mergeSort Segment.place (fun s t hs ht => by
        have hs' : s.place = place := by simpa using hs
        have ht' : t.place = place := by simpa using ht
        exact (hs'.trans ht'.symm).le), List.filter_comm]

/-! ### Sorting line by line -/

/-- Lists of segments of which each stands on one line, line after line from the given one. -/
def Stacked : ℕ → List (List Segment) → Prop
  | _, [] => True
  | number, segments :: rest => (∀ s ∈ segments, s.line = number) ∧ Stacked (number + 1) rest

/-- No segment stands above the first line. -/
lemma Stacked.le_line {number : ℕ} {lines : List (List Segment)} (h : Stacked number lines)
    {s : Segment} (hs : s ∈ lines.flatten) : number ≤ s.line := by
  induction lines generalizing number with
  | nil => simp at hs
  | cons segments rest ih =>
    rw [List.flatten_cons, List.mem_append] at hs
    rcases hs with hs | hs
    · exact (h.1 s hs).ge
    · exact (Nat.le_succ number).trans (ih h.2 hs)

/-- Segments are in order if each one is in order with the one right behind it. -/
lemma pairwise_of_isOutOfOrder_eq_false {segments : List Segment}
    (h : isOutOfOrder segments = false) :
    segments.Pairwise fun s t => s.column ≤ t.column := by
  refine List.isChain_iff_pairwise.mp ?_
  induction segments with
  | nil => exact .nil
  | cons s rest ih =>
    cases rest with
    | nil => exact .singleton s
    | cons t rest =>
      rw [isOutOfOrder, Bool.or_eq_false_iff, decide_eq_false_iff_not, not_lt] at h
      exact .cons_cons h.1 (ih h.2)

/-- Segments that are in order would not be moved either if they were sorted. -/
lemma sortLine_eq_mergeSort (segments : List Segment) :
    sortLine segments = segments.mergeSort fun s t => s.column ≤ t.column := by
  rw [sortLine]
  split
  · rfl
  · next hsorted =>
    rw [Bool.not_eq_true] at hsorted
    exact (List.mergeSort_of_pairwise
      (by simpa using pairwise_of_isOutOfOrder_eq_false hsorted)).symm

/-- Sorting a line gives the same segments. -/
lemma mem_sortLine {segments : List Segment} {s : Segment} :
    s ∈ sortLine segments ↔ s ∈ segments := by
  rw [sortLine_eq_mergeSort]
  exact List.mem_mergeSort

/-- Sorting a line does not move segments to other lines. -/
lemma Stacked.map_sortLine {number : ℕ} {lines : List (List Segment)} (h : Stacked number lines) :
    Stacked number (lines.map sortLine) := by
  induction lines generalizing number with
  | nil => trivial
  | cons segments rest ih =>
    exact ⟨fun s hs => h.1 s (mem_sortLine.mp hs), ih h.2⟩

/-- Lines that are sorted one by one make a list that is sorted as a whole. -/
lemma Stacked.pairwise_flatten {number : ℕ} {lines : List (List Segment)}
    (h : Stacked number lines) :
    (lines.map sortLine).flatten.Pairwise fun s t => s.place ≤ t.place := by
  induction lines generalizing number with
  | nil => exact List.Pairwise.nil
  | cons segments rest ih =>
    rw [List.map_cons, List.flatten_cons, List.pairwise_append]
    refine ⟨?_, ih h.2, ?_⟩
    · rw [sortLine_eq_mergeSort]
      refine List.Pairwise.imp_of_mem ?_ (pairwise_mergeSort_key Segment.column segments)
      intro s t hs ht hst
      rw [Segment.place, Segment.place, Prod.Lex.toLex_le_toLex,
        h.1 s (List.mem_mergeSort.mp hs), h.1 t (List.mem_mergeSort.mp ht)]
      exact Or.inr ⟨rfl, hst⟩
    · intro s hs t ht
      have hsline : s.line = number := h.1 s (mem_sortLine.mp hs)
      have htline : number + 1 ≤ t.line := h.2.map_sortLine.le_line ht
      rw [Segment.place, Segment.place, Prod.Lex.toLex_le_toLex]
      exact Or.inl (by simp only; omega)

/-- Sorting lines one by one sorts all of them. -/
lemma Stacked.flatten_map_sortLine {number : ℕ} {lines : List (List Segment)}
    (h : Stacked number lines) : (lines.map sortLine).flatten = sortByPlace lines.flatten := by
  refine eq_of_filter_key_eq Segment.place h.pairwise_flatten
    (pairwise_sortByPlace lines.flatten) ?_
  intro place
  have hsame : ∀ s t : Segment, decide (s.place = place) = true →
      decide (t.place = place) = true → s.place = t.place := by
    intro s t hs ht
    rw [decide_eq_true_iff] at hs ht
    exact hs.trans ht.symm
  have hline : ∀ segments : List Segment,
      (sortLine segments).filter (fun s => s.place = place) =
        segments.filter fun s => s.place = place := by
    intro segments
    rw [sortLine_eq_mergeSort]
    exact filter_mergeSort Segment.column fun s t hs ht =>
      (congrArg (fun p => (ofLex p).2) (hsame s t hs ht)).le
  rw [sortByPlace, filter_mergeSort Segment.place fun s t hs ht => (hsame s t hs ht).le,
    List.filter_flatten, List.filter_flatten, List.map_map]
  exact congrArg List.flatten (List.map_congr_left fun segments _ => hline segments)

/-- The lines that are read stand one after the other. -/
lemma stacked_of_lines? {number : ℕ} {sums : Sums} {texts : List (List Char)}
    {lines : List (List Segment)} (hlimit : number + texts.length ≤ lineLimit)
    (h : lines? number sums texts = .ok lines) : Stacked number lines := by
  induction texts generalizing number sums lines with
  | nil =>
    simp only [lines?, Except.ok.injEq] at h
    subst h
    trivial
  | cons text rest ih =>
    rw [List.length_cons] at hlimit
    have hnumber : number % lineLimit = number := Nat.mod_eq_of_lt (by omega)
    rw [lines?, hnumber] at h
    split at h
    · simp at h
    · next segments sums' hline =>
      split at h
      · simp at h
      · next others hrest =>
        simp only [Except.ok.injEq] at h
        subst h
        refine ⟨forall_of_line? (fun column sums'' text r hr => ?_) hline, ih (by omega) hrest⟩
        obtain ⟨numbers, -, -, rfl⟩ := segment?_eq_ok_iff.mp hr
        rfl

/-- Decoded mappings come from lines that were read. -/
lemma exists_lines_of_decode? {text : List Char} {m : Mappings} (h : decode? text = .ok m) :
    ∃ lines, lines? 0 Sums.start (Text.splitOn ';' text) = .ok lines ∧
      m.segments = (lines.map sortLine).flatten := by
  rw [decode?] at h
  split at h
  · simp at h
  · next lines hlines =>
    simp only [Except.ok.injEq] at h
    subst h
    exact ⟨lines, hlines, rfl⟩

/-- **Decoded segments.**  They are the written segments in the order of their places. -/
theorem segments_eq_sortByPlace {text : List Char} {m : Mappings}
    (hlimit : (Text.splitOn ';' text).length ≤ lineLimit) (h : decode? text = .ok m) :
    m.segments = sortByPlace (written text) := by
  obtain ⟨lines, hlines, hm⟩ := exists_lines_of_decode? h
  have hstacked : Stacked 0 lines := stacked_of_lines? (by omega) hlines
  rw [hm, hstacked.flatten_map_sortLine, flatten_eq_written hlimit hlines]

/-! ### The nearest segment -/

/-- Whether a segment is the nearest of those given by a place: no other one that is not after the
place has a greater place of its own, and those given later have a smaller one. -/
def IsNearest (segments : List Segment) (place : Place) (s : Segment) : Prop :=
  ∃ before after, segments = before ++ s :: after ∧ s.place ≤ place ∧
    (∀ t ∈ before, t.place ≤ place → t.place ≤ s.place) ∧
      ∀ t ∈ after, t.place ≤ place → t.place < s.place

/-- There is at most one nearest segment. -/
lemma IsNearest.unique {segments : List Segment} {place : Place} {s t : Segment}
    (hs : IsNearest segments place s) (ht : IsNearest segments place t) : s = t := by
  obtain ⟨before, after, rfl, hsle, hbefore, hafter⟩ := hs
  obtain ⟨before', after', heq, htle, hbefore', hafter'⟩ := ht
  -- The two stand at the same index, or one of them stands behind the other.
  rw [List.append_eq_append_iff] at heq
  rcases heq with ⟨between, rfl, hrest⟩ | ⟨between, rfl, hrest⟩
  · cases between with
    | nil => exact (List.cons.inj hrest).1
    | cons u between =>
      obtain ⟨rfl, rfl⟩ := List.cons.inj hrest
      have hlt : t.place < s.place := hafter t (by simp) htle
      exact absurd (hbefore' s (by simp) hsle) (not_le.mpr hlt)
  · cases between with
    | nil => exact (List.cons.inj hrest).1.symm
    | cons u between =>
      obtain ⟨rfl, rfl⟩ := List.cons.inj hrest
      have hlt : s.place < t.place := hafter' s (by simp) hsle
      exact absurd (hbefore t (by simp) htle) (not_le.mpr hlt)

/-- In a stable sort of segments, the last one by a place is the nearest of those given. -/
lemma isNearest_of_getLast? {segments : List Segment} {place : Place} {s : Segment}
    (h : ((sortByPlace segments).filter fun t => t.place ≤ place).getLast? = some s) :
    IsNearest segments place s := by
  obtain ⟨front, hfront⟩ := List.getLast?_eq_some_iff.mp h
  have hsorted : (front ++ [s]).Pairwise fun t u => t.place ≤ u.place := by
    rw [← hfront]
    exact (pairwise_sortByPlace segments).filter _
  rw [List.pairwise_append] at hsorted
  have hmem : ∀ t, t ∈ front ++ [s] ↔ t ∈ segments ∧ t.place ≤ place := by
    intro t
    rw [← hfront, List.mem_filter, sortByPlace, List.mem_mergeSort, decide_eq_true_iff]
  have hle : s.place ≤ place := ((hmem s).mp (by simp)).2
  have hmax : ∀ t ∈ segments, t.place ≤ place → t.place ≤ s.place := by
    intro t ht htle
    rcases List.mem_append.mp ((hmem t).mpr ⟨ht, htle⟩) with ht | ht
    · exact hsorted.2.2 t ht s (List.mem_singleton_self s)
    · rw [List.mem_singleton.mp ht]
  -- The segments at the place of `s` have their given order, in which `s` is the last one.
  have hclass : segments.filter (fun t => t.place = s.place) =
      front.filter (fun t => t.place = s.place) ++ [s] := by
    have hsame : (sortByPlace segments).filter (fun t => t.place = s.place) =
        segments.filter fun t => t.place = s.place :=
      filter_mergeSort Segment.place fun t u ht hu => by
        rw [decide_eq_true_iff] at ht hu
        exact (ht.trans hu.symm).le
    have htwice : (sortByPlace segments).filter (fun t => t.place = s.place) =
        ((sortByPlace segments).filter fun t => t.place ≤ place).filter
          fun t => t.place = s.place := by
      rw [List.filter_filter]
      refine List.filter_congr fun t _ => ?_
      by_cases ht : t.place = s.place
      · simp [ht, hle]
      · simp [ht]
    rw [← hsame, htwice, hfront, List.filter_append]
    simp
  obtain ⟨before, rest, hsegments, -, hrest⟩ := List.filter_eq_append_iff.mp hclass
  obtain ⟨between, after, rfl, hbetween, -, hafter⟩ := List.filter_eq_cons_iff.mp hrest
  refine ⟨before ++ between, after, by rw [hsegments, List.append_assoc], hle, ?_, ?_⟩
  · intro t ht htle
    refine hmax t ?_ htle
    rw [hsegments, ← List.append_assoc]
    exact List.mem_append_left _ ht
  · intro t ht htle
    have htmem : t ∈ segments := by
      rw [hsegments]
      simp [ht]
    have hne : t.place ≠ s.place := by
      simpa using List.filter_eq_nil_iff.mp hafter t ht
    exact lt_of_le_of_ne (hmax t htmem htle) hne

/-- What is found among decoded segments is the last one by the place. -/
lemma find?_eq_getLast? {m : Mappings} {segments : List Segment}
    (hm : m.segments = sortByPlace segments) (line column : ℕ) :
    m.find? line column =
      ((sortByPlace segments).filter fun t => t.place ≤ toLex (line, column)).getLast? := by
  rw [find?, hm, ← takeWhile_le_eq_filter Segment.place (pairwise_sortByPlace segments)]
  simp only [startsBy_eq]

/-- Nothing is found if all segments are after the place. -/
theorem find?_eq_none_iff {m : Mappings} {segments : List Segment}
    (hm : m.segments = sortByPlace segments) {line column : ℕ} :
    m.find? line column = none ↔ ∀ s ∈ segments, toLex (line, column) < s.place := by
  rw [find?_eq_getLast? hm, List.getLast?_eq_none_iff, List.filter_eq_nil_iff]
  simp only [sortByPlace, List.mem_mergeSort, decide_eq_true_iff, not_le]

/-- **The segment of a place.**  What is found is the nearest segment of those written. -/
theorem find?_eq_some_iff_isNearest {m : Mappings} {segments : List Segment}
    (hm : m.segments = sortByPlace segments) {line column : ℕ} {s : Segment} :
    m.find? line column = some s ↔ IsNearest segments (toLex (line, column)) s := by
  constructor
  · intro h
    rw [find?_eq_getLast? hm] at h
    exact isNearest_of_getLast? h
  · intro h
    cases hfound : m.find? line column with
    | none =>
      obtain ⟨before, after, rfl, hle, -, -⟩ := h
      have hlt := (find?_eq_none_iff hm).mp hfound s (by simp)
      exact absurd hle (not_le.mpr hlt)
    | some t =>
      rw [find?_eq_getLast? hm] at hfound
      rw [(isNearest_of_getLast? hfound).unique h]

end Mappings

end Retrace
