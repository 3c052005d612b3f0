import Mathlib
import Retrace.Proofs.SourceMap.RoundTrip

/-!
# Mappings line by line

Decoded mappings are *well formed*: their segments stand in the order of their places, and a name
stands only where there is a place in a source (`WellFormed`, `wellFormed_of_decode?`).  In such a
list the segments of a generated line stand together, so that what `Mappings.onLine` cuts out of it
are all of them (`WellFormed.onLine_eq_filter`), and the lines one after the other are the whole list
(`WellFormed.flatMap_onLine`).

`Mappings.find?` searches the whole list at once.  In terms of lines it finds the last segment of the
line that is not after the column, and if there is none the last one of the nearest line above that
has any (`WellFormed.find?_eq`).
-/

namespace Retrace

/-- A list in which nothing of a second kind stands in front of anything of a first kind falls into
the two. -/
lemma filter_or_eq_append {α : Type} {p q : α → Bool} {l : List α}
    (hl : l.Pairwise fun a b => q a → ¬ p b) (hpq : ∀ a, q a → ¬ p a) :
    l.filter (fun a => p a || q a) = l.filter p ++ l.filter q := by
  induction l with
  | nil => rfl
  | cons a rest ih =>
    rw [List.pairwise_cons] at hl
    by_cases hp : p a
    · have hq : q a = false := by
        by_contra hq
        exact hpq a (by simpa using hq) hp
      simp [hp, hq, ih hl.2]
    · by_cases hq : q a
      · -- Nothing of the first kind is left.
        have hnone : rest.filter p = [] := List.filter_eq_nil_iff.mpr fun b hb => hl.1 b hb hq
        simp [hp, hq, ih hl.2, hnone]
      · simp [hp, hq, ih hl.2]

/-- A list that is sorted up to a bound ends with what is not below it. -/
lemma dropWhile_lt_eq_filter {α κ : Type} [LinearOrder κ] (key : α → κ) {l : List α}
    (hl : l.Pairwise fun a b => key a ≤ key b) (k : κ) :
    l.dropWhile (fun a => key a < k) = l.filter (fun a => k ≤ key a) := by
  induction l with
  | nil => rfl
  | cons a rest ih =>
    rw [List.pairwise_cons] at hl
    by_cases hak : key a < k
    · rw [List.dropWhile_cons_of_pos (by simpa using hak),
        List.filter_cons_of_neg (by simpa using hak), ih hl.2]
    · have hle : k ≤ key a := not_lt.mp hak
      have hall : rest.filter (fun b => k ≤ key b) = rest := by
        rw [List.filter_eq_self]
        intro b hb
        exact decide_eq_true (hle.trans (hl.1 b hb))
      rw [List.dropWhile_cons_of_neg (by simpa using hle),
        List.filter_cons_of_pos (by simpa using hle), hall]

namespace Mappings

/-- What holds of decoded mappings. -/
structure WellFormed (m : Mappings) : Prop where
  sorted : m.segments.Pairwise fun s t => s.place ≤ t.place
  named : ∀ s ∈ m.segments, s.name.isSome → s.origin.isSome

/-- Decoded mappings are well formed, as long as their lines can be told apart. -/
lemma wellFormed_of_decode? {text : List Char} {m : Mappings}
    (hlimit : (Text.splitOn ';' text).length ≤ lineLimit) (h : decode? text = .ok m) :
    m.WellFormed := by
  constructor
  · rw [segments_eq_sortByPlace hlimit h]
    exact pairwise_sortByPlace (written text)
  · intro s hs hname
    obtain ⟨n, hn⟩ := Option.isSome_iff_exists.mp hname
    exact ((fits_of_decode? h s hs).name n hn).2

/-! ### Lines of a text -/

/-- There are as many lines as texts that they are read from. -/
lemma length_of_lines? {number : ℕ} {sums : Sums} {texts : List (List Char)}
    {lines : List (List Segment)} (h : lines? number sums texts = .ok lines) :
    lines.length = texts.length := by
  induction texts generalizing number sums lines with
  | nil =>
    obtain rfl := Except.ok.inj h
    rfl
  | cons text rest ih =>
    rw [lines?] at h
    split at h
    · cases h
    · split at h
      · cases h
      · next others hrest =>
        obtain rfl := Except.ok.inj h
        rw [List.length_cons, List.length_cons, ih hrest]

/-- No segment stands below the last line. -/
lemma Stacked.line_lt {number : ℕ} {lines : List (List Segment)} (h : Stacked number lines)
    {s : Segment} (hs : s ∈ lines.flatten) : s.line < number + lines.length := by
  induction lines generalizing number with
  | nil => simp at hs
  | cons segments rest ih =>
    rw [List.flatten_cons, List.mem_append] at hs
    rw [List.length_cons]
    rcases hs with hs | hs
    · have hline : s.line = number := h.1 s hs
      omega
    · have hline : s.line < number + 1 + rest.length := ih h.2 hs
      omega

/-- Every decoded segment stands on a line of the text. -/
lemma line_lt_of_decode? {text : List Char} {m : Mappings}
    (hlimit : (Text.splitOn ';' text).length ≤ lineLimit) (h : decode? text = .ok m) :
    ∀ s ∈ m.segments, s.line < (Text.splitOn ';' text).length := by
  obtain ⟨lines, hlines, hm⟩ := exists_lines_of_decode? h
  have hstacked : Stacked 0 lines := stacked_of_lines? (by omega) hlines
  intro s hs
  rw [hm] at hs
  have hline : s.line < 0 + (lines.map sortLine).length := hstacked.map_sortLine.line_lt hs
  rwa [List.length_map, length_of_lines? hlines, Nat.zero_add] at hline

/-! ### The list and its lines -/

section WellFormed

variable {m : Mappings} (hm : m.WellFormed)

include hm

/-- Well-formed mappings are in the order of their lines. -/
lemma WellFormed.sorted_line : m.segments.Pairwise fun s t => s.line ≤ t.line :=
  pairwise_line_of_pairwise_place hm.sorted

/-- What is cut out as a line are all segments of the line. -/
lemma WellFormed.onLine_eq_filter (line : ℕ) :
    m.onLine line = m.segments.filter fun s => s.line = line := by
  rw [onLine, dropWhile_lt_eq_filter Segment.line hm.sorted_line,
    takeWhile_le_eq_filter Segment.line (hm.sorted_line.filter _), List.filter_filter]
  refine List.filter_congr fun s _ => ?_
  rw [← Bool.decide_and, decide_eq_decide]
  omega

/-- The segments above a line and those of the line are the ones above the next line. -/
lemma WellFormed.filter_lt_succ (line : ℕ) :
    m.segments.filter (fun s => s.line < line + 1) =
      m.segments.filter (fun s => s.line < line) ++ m.onLine line := by
  have hkinds : m.segments.Pairwise fun s t =>
      decide (s.line = line) → ¬ decide (t.line < line) := by
    refine hm.sorted_line.imp ?_
    intro s t hst
    simp only [decide_eq_true_iff]
    omega
  rw [hm.onLine_eq_filter, ← filter_or_eq_append hkinds (by simp; omega)]
  refine List.filter_congr fun s _ => ?_
  rw [← Bool.decide_or, decide_eq_decide]
  omega

/-- The first lines one after the other are the segments above the next line. -/
lemma WellFormed.flatMap_onLine (count : ℕ) :
    (List.range count).flatMap m.onLine = m.segments.filter fun s => s.line < count := by
  induction count with
  | zero => simp
  | succ count ih =>
    rw [List.range_succ, List.flatMap_append, ih, hm.filter_lt_succ, List.flatMap_singleton]

/-- The last segment above a line is the last one of the nearest line above it that has any. -/
lemma WellFormed.getLast?_filter_lt (line : ℕ) :
    (m.segments.filter fun s => s.line < line).getLast? =
      (List.range line).reverse.findSome? fun k => (m.onLine k).getLast? := by
  induction line with
  | zero => simp
  | succ line ih =>
    rw [hm.filter_lt_succ, List.getLast?_append, ih, List.range_succ, List.reverse_append,
      List.reverse_singleton, List.singleton_append, List.findSome?_cons]
    cases (m.onLine line).getLast? <;> rfl

/-- **Finding by lines.**  What is found at a place is the last segment of the line that is not after
the column, or the last one of the nearest line above that has any. -/
lemma WellFormed.find?_eq (line column : ℕ) :
    m.find? line column =
      ((m.onLine line).filter fun s => s.column ≤ column).getLast?.or
        ((List.range line).reverse.findSome? fun k => (m.onLine k).getLast?) := by
  have hkinds : m.segments.Pairwise fun s t =>
      (decide (s.column ≤ column) && decide (s.line = line)) → ¬ decide (t.line < line) := by
    refine hm.sorted_line.imp ?_
    intro s t hst
    simp only [Bool.and_eq_true, decide_eq_true_iff]
    omega
  have hsplit : m.segments.filter (fun s => s.place ≤ toLex (line, column)) =
      m.segments.filter (fun s => s.line < line) ++
        (m.onLine line).filter fun s => s.column ≤ column := by
    rw [hm.onLine_eq_filter, List.filter_filter,
      ← filter_or_eq_append hkinds (by simp; omega)]
    refine List.filter_congr fun s _ => ?_
    rw [← startsBy_eq, Segment.startsBy, Bool.and_comm]
  have hsorted : m.segments = sortByPlace m.segments := (sortByPlace_of_pairwise hm.sorted).symm
  rw [find?_eq_getLast? hsorted, ← hsorted, hsplit, List.getLast?_append, hm.getLast?_filter_lt]

end WellFormed

/-- **Decoded mappings by lines.**  They are well formed; each line has exactly the segments that
stand on it; the lines of the text, and more, one after the other are all segments; and what is found
at a place is told by the lines. -/
theorem decoded_byLines {text : List Char} {m : Mappings}
    (hlimit : (Text.splitOn ';' text).length ≤ lineLimit) (h : decode? text = .ok m) :
    m.WellFormed ∧
      (∀ line, m.onLine line = m.segments.filter fun s => s.line = line) ∧
      (∀ count, (Text.splitOn ';' text).length ≤ count →
        (List.range count).flatMap m.onLine = m.segments) ∧
      ∀ line column, m.find? line column =
        ((m.onLine line).filter fun s => s.column ≤ column).getLast?.or
          ((List.range line).reverse.findSome? fun k => (m.onLine k).getLast?) := by
  have hm : m.WellFormed := wellFormed_of_decode? hlimit h
  refine ⟨hm, hm.onLine_eq_filter, ?_, hm.find?_eq⟩
  intro count hcount
  rw [hm.flatMap_onLine, List.filter_eq_self]
  intro s hs
  have hline := line_lt_of_decode? hlimit h s hs
  exact decide_eq_true (by omega)

/-- A text whose first line is written out of order and whose second line is empty. -/
def gapped : List Char := "UAAAA,LAAC;;A".toList

/-- The mappings of `gapped`. -/
def gappedMappings : Mappings :=
  ⟨[⟨0, 5, some ⟨0, 0, 1⟩, none⟩, ⟨0, 10, some ⟨0, 0, 0⟩, some 0⟩, ⟨2, 0, none, none⟩]⟩

/-- On the empty line the last segment of the first line is found, and the three lines have all
segments. -/
theorem gapped_byLines :
    decode? gapped = .ok gappedMappings ∧ gappedMappings.WellFormed ∧
      (List.range 3).flatMap gappedMappings.onLine = gappedMappings.segments ∧
      gappedMappings.find? 1 7 = some ⟨0, 10, some ⟨0, 0, 0⟩, some 0⟩ := by
  have hdecode : decode? gapped = .ok gappedMappings := by cbv
  have hlength : (Text.splitOn ';' gapped).length = 3 := by cbv
  have hlimit : (Text.splitOn ';' gapped).length ≤ lineLimit := by
    rw [hlength]
    decide
  obtain ⟨hwell, -, hjoined, hfound⟩ := decoded_byLines hlimit hdecode
  refine ⟨hdecode, hwell, hjoined 3 hlength.le, ?_⟩
  rw [hfound]
  decide

end Mappings

end Retrace
