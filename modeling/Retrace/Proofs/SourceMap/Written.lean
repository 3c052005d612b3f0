import Mathlib
import Retrace.Proofs.Basics
import Retrace.SourceMap.Mappings

/-!
# The segments as they are written

`Mappings.decode?` carries sums along while it reads a text, some of which start again with each
line.  This file says what it reads without them.  A text is cut into *groups* of numbers, each with
the generated line that it stands on, and the segment of a group is given by plain sums over the
groups up to it (`segmentAfter`): over those of its line for the generated column, over all of them
for the place in the source and for the name.  `written` lists these segments in the order of the
text, with nothing sorted.

The tie between the two is made once for a segment, in `segment?_eq_ok_iff`, which says what a step
of the reader accepts and what it gives; `line?_eq_segmentsAfter` and `lines?_eq_segmentsAfter`
carry it along a line and along the text.
-/

namespace Retrace

namespace Mappings

/-! ### One segment -/

/-- Whether a number is a place or an index of thirty-two bits. -/
def IsPlace (value : ℤ) : Prop := 0 ≤ value ∧ value < 2 ^ 32

/-- A sum is taken as it is if it is a place. -/
lemma place?_eq_ok_iff {quantity : Quantity} {text : List Char} {line : ℕ} {value : ℤ} {n : ℕ} :
    place? quantity text line value = .ok n ↔ IsPlace value ∧ n = value.toNat := by
  unfold place? IsPlace
  split
  · next h =>
    rw [Bool.and_eq_true, decide_eq_true_iff, decide_eq_true_iff] at h
    simp only [Except.ok.injEq]
    constructor
    · rintro rfl
      exact ⟨⟨h.1, by omega⟩, rfl⟩
    · rintro ⟨-, rfl⟩
      rfl
  · next h =>
    rw [Bool.and_eq_true, decide_eq_true_iff, decide_eq_true_iff] at h
    simp only [reduceCtorEq, false_iff, not_and]
    rintro ⟨h0, h1⟩
    omega

/-- The place in a source is taken if all three of its sums are places. -/
lemma origin?_eq_ok_iff {text : List Char} {line : ℕ} {sums : Sums} {origin : Origin} :
    origin? text line sums = .ok origin ↔
      (IsPlace sums.source ∧ IsPlace sums.line ∧ IsPlace sums.column) ∧
        origin = ⟨sums.source.toNat, sums.line.toNat, sums.column.toNat⟩ := by
  simp only [origin?, bind_eq_ok_iff, place?_eq_ok_iff, pure, Except.pure, Except.ok.injEq]
  constructor
  · rintro ⟨_, ⟨hs, rfl⟩, _, ⟨hl, rfl⟩, _, ⟨hc, rfl⟩, rfl⟩
    exact ⟨⟨hs, hl, hc⟩, rfl⟩
  · rintro ⟨⟨hs, hl, hc⟩, rfl⟩
    exact ⟨_, ⟨hs, rfl⟩, _, ⟨hl, rfl⟩, _, ⟨hc, rfl⟩, rfl⟩

/-- The sums after the numbers of one more segment; a number that it does not have adds nothing. -/
def Sums.add (sums : Sums) (numbers : List ℤ) : Sums where
  source := sums.source + numbers.getD 1 0
  line := sums.line + numbers.getD 2 0
  column := sums.column + numbers.getD 3 0
  name := sums.name + numbers.getD 4 0

/-- The segment of so many numbers whose sums, its own numbers included, are given. -/
def segmentOf (line : ℕ) (column : ℤ) (sums : Sums) (fields : ℕ) : Segment where
  line := line
  column := column.toNat
  origin :=
    if 4 ≤ fields then some ⟨sums.source.toNat, sums.line.toNat, sums.column.toNat⟩ else none
  name := if 5 ≤ fields then some sums.name.toNat else none

/-- What is asked of a segment of so many numbers and of the sums after it.  Sums that the segment
does not use are not asked about. -/
structure Admits (column : ℤ) (sums : Sums) (fields : ℕ) : Prop where
  count : fields = 1 ∨ fields = 4 ∨ fields = 5
  column : IsPlace column
  origin : 4 ≤ fields → IsPlace sums.source ∧ IsPlace sums.line ∧ IsPlace sums.column
  name : 5 ≤ fields → IsPlace sums.name

/-- A segment is read if its numbers can be and its sums are places, and then it is the segment of
these sums. -/
theorem segment?_eq_ok_iff {line : ℕ} {column : ℤ} {sums : Sums} {text : List Char}
    {r : Segment × ℤ × Sums} :
    segment? line column sums text = .ok r ↔
      ∃ numbers, numbers? text = .ok numbers ∧
        Admits (column + numbers.getD 0 0) (sums.add numbers) numbers.length ∧
        r = (segmentOf line (column + numbers.getD 0 0) (sums.add numbers) numbers.length,
          column + numbers.getD 0 0, sums.add numbers) := by
  rw [segment?, bind_eq_ok_iff]
  refine exists_congr fun numbers => and_congr_right fun _ => ?_
  -- One case for each count of numbers that the reader knows, and one for all others.
  split
  · next c =>
    simp only [bind_eq_ok_iff, place?_eq_ok_iff, pure, Except.pure, Except.ok.injEq]
    constructor
    · rintro ⟨_, ⟨hc, rfl⟩, rfl⟩
      exact ⟨⟨by simp, hc, by simp, by simp⟩, by simp [segmentOf, Sums.add]⟩
    · rintro ⟨h, rfl⟩
      exact ⟨_, ⟨h.column, rfl⟩, by simp [segmentOf, Sums.add]⟩
  · next c s l k =>
    simp only [bind_eq_ok_iff, place?_eq_ok_iff, origin?_eq_ok_iff, pure, Except.pure,
      Except.ok.injEq]
    constructor
    · rintro ⟨_, ⟨ho, rfl⟩, _, ⟨hc, rfl⟩, rfl⟩
      exact ⟨⟨by simp, hc, fun _ => ho, by simp⟩, by simp [segmentOf, Sums.add]⟩
    · rintro ⟨h, rfl⟩
      exact ⟨_, ⟨h.origin (by simp), rfl⟩, _, ⟨h.column, rfl⟩, by simp [segmentOf, Sums.add]⟩
  · next c s l k n =>
    simp only [bind_eq_ok_iff, place?_eq_ok_iff, origin?_eq_ok_iff, pure, Except.pure,
      Except.ok.injEq]
    constructor
    · rintro ⟨_, ⟨ho, rfl⟩, _, ⟨hn, rfl⟩, _, ⟨hc, rfl⟩, rfl⟩
      exact ⟨⟨by simp, hc, fun _ => ho, fun _ => hn⟩, by simp [segmentOf, Sums.add]⟩
    · rintro ⟨h, rfl⟩
      exact ⟨_, ⟨h.origin (by simp), rfl⟩, _, ⟨h.name (by simp), rfl⟩, _, ⟨h.column, rfl⟩,
        by simp [segmentOf, Sums.add]⟩
  · next h1 h4 h5 =>
    simp only [reduceCtorEq, false_iff, not_and]
    intro h
    exfalso
    match numbers, h.count with
    | [], h => simp at h
    | [c], _ => exact h1 c rfl
    | [c, s], h => simp at h
    | [c, s, l], h => simp at h
    | [c, s, l, k], _ => exact h4 c s l k rfl
    | [c, s, l, k, n], _ => exact h5 c s l k n rfl
    | _ :: _ :: _ :: _ :: _ :: _ :: _, h => simp at h

/-! ### Groups of numbers -/

/-- The numbers that stand between two separators, and the generated line on which they stand. -/
structure Group where
  line : ℕ
  numbers : List ℤ

/-- The numbers that a text writes, of which there are none if it cannot be read. -/
def numbersOf (text : List Char) : List ℤ :=
  match numbers? text with
  | .ok numbers => numbers
  | .error _ => []

/-- The groups of a generated line; nothing stands between two commas in a row. -/
def groupsOnLine (line : ℕ) (texts : List (List Char)) : List Group :=
  (texts.filter fun text => !text.isEmpty).map fun text => ⟨line, numbersOf text⟩

/-- The groups of generated lines, of which the first one has the given number. -/
def groupsFrom (number : ℕ) (texts : List (List Char)) : List Group :=
  (texts.zipIdx number).flatMap fun p => groupsOnLine p.2 (Text.splitOn ',' p.1)

/-- The groups of a text. -/
def groups (text : List Char) : List Group :=
  groupsFrom 0 (Text.splitOn ';' text)

/-- The sum of the numbers at place `k` of groups. -/
def total (k : ℕ) (gs : List Group) : ℤ :=
  (gs.map fun g => g.numbers.getD k 0).sum

/-- The sum of the columns of the groups on a generated line. -/
def columnOn (line : ℕ) (gs : List Group) : ℤ :=
  total 0 (gs.filter fun g => g.line = line)

/-- The segment that a group writes after others. -/
def segmentAfter (before : List Group) (g : Group) : Segment where
  line := g.line
  column := (columnOn g.line (before ++ [g])).toNat
  origin :=
    if 4 ≤ g.numbers.length then
      some ⟨(total 1 (before ++ [g])).toNat, (total 2 (before ++ [g])).toNat,
        (total 3 (before ++ [g])).toNat⟩
    else none
  name := if 5 ≤ g.numbers.length then some (total 4 (before ++ [g])).toNat else none

/-- The segments of a text in the order in which it writes them: the one of each group after the
groups in front of it. -/
def written (text : List Char) : List Segment :=
  (groups text).mapIdx fun i g => segmentAfter ((groups text).take i) g

/-! ### Sums over groups -/

/-- One more group adds its own number. -/
lemma total_concat (k : ℕ) (gs : List Group) (g : Group) :
    total k (gs ++ [g]) = total k gs + g.numbers.getD k 0 := by
  simp [total]

/-- One more group on a line adds its column. -/
lemma columnOn_concat (gs : List Group) (g : Group) :
    columnOn g.line (gs ++ [g]) = columnOn g.line gs + g.numbers.getD 0 0 := by
  simp [columnOn, total]

/-- A line on which no group stands yet starts at column zero. -/
lemma columnOn_of_lt {number : ℕ} {gs : List Group} (h : ∀ g ∈ gs, g.line < number) :
    columnOn number gs = 0 := by
  have hnone : gs.filter (fun g => g.line = number) = [] := by
    rw [List.filter_eq_nil_iff]
    intro g hg
    simpa using (h g hg).ne
  rw [columnOn, hnone]
  rfl

/-- The sums of the numbers that run through the whole text. -/
def sumsOf (gs : List Group) : Sums := ⟨total 1 gs, total 2 gs, total 3 gs, total 4 gs⟩

/-- One more group adds its numbers to the sums. -/
lemma sumsOf_concat (gs : List Group) (g : Group) :
    sumsOf (gs ++ [g]) = (sumsOf gs).add g.numbers := by
  simp only [sumsOf, Sums.add, total_concat]

/-- The segment after a group is the one of the sums that a reader has reached. -/
lemma segmentAfter_eq (before : List Group) (g : Group) :
    segmentAfter before g =
      segmentOf g.line (columnOn g.line before + g.numbers.getD 0 0)
        ((sumsOf before).add g.numbers) g.numbers.length := by
  rw [← sumsOf_concat, ← columnOn_concat]
  rfl

/-! ### Lines -/

/-- The segments of groups that follow others. -/
def segmentsAfter (before : List Group) : List Group → List Segment
  | [] => []
  | g :: rest => segmentAfter before g :: segmentsAfter (before ++ [g]) rest

/-- Each segment comes from the groups up to its own. -/
lemma segmentsAfter_eq_mapIdx (before gs : List Group) :
    segmentsAfter before gs = gs.mapIdx fun i g => segmentAfter (before ++ gs.take i) g := by
  induction gs generalizing before with
  | nil => rfl
  | cons g rest ih =>
    rw [segmentsAfter, List.mapIdx_cons, ih]
    simp

/-- The written segments are those of all groups. -/
lemma written_eq_segmentsAfter (text : List Char) :
    written text = segmentsAfter [] (groups text) := by
  rw [written, segmentsAfter_eq_mapIdx]
  simp

/-- The segments of two lists of groups are those of the first and those of the second after it. -/
lemma segmentsAfter_append (before gs others : List Group) :
    segmentsAfter before (gs ++ others) =
      segmentsAfter before gs ++ segmentsAfter (before ++ gs) others := by
  induction gs generalizing before with
  | nil => simp [segmentsAfter]
  | cons g rest ih => simp [segmentsAfter, ih]

/-- An empty text has no group. -/
lemma groupsOnLine_cons_of_isEmpty {text : List Char} (h : text.isEmpty) (line : ℕ)
    (rest : List (List Char)) : groupsOnLine line (text :: rest) = groupsOnLine line rest := by
  simp [groupsOnLine, h]

/-- Any other text has one. -/
lemma groupsOnLine_cons {text : List Char} (h : ¬ text.isEmpty) (line : ℕ)
    (rest : List (List Char)) :
    groupsOnLine line (text :: rest) = ⟨line, numbersOf text⟩ :: groupsOnLine line rest := by
  simp [groupsOnLine, h]

/-- **A line.**  If the reader has the sums of the groups before, it reads the segments of the
groups on the line and has the sums after them. -/
lemma line?_eq_segmentsAfter {line : ℕ} {before : List Group} {texts : List (List Char)}
    {segments : List Segment} {sums : Sums}
    (h : line? line (columnOn line before) (sumsOf before) texts = .ok (segments, sums)) :
    segments = segmentsAfter before (groupsOnLine line texts) ∧
      sums = sumsOf (before ++ groupsOnLine line texts) := by
  induction texts generalizing before segments with
  | nil =>
    simp only [line?, Except.ok.injEq, Prod.mk.injEq] at h
    obtain ⟨rfl, rfl⟩ := h
    simp [groupsOnLine, segmentsAfter]
  | cons text rest ih =>
    rw [line?] at h
    split at h
    · next hempty =>
      rw [groupsOnLine_cons_of_isEmpty hempty]
      exact ih h
    · next hempty =>
      split at h
      · simp at h
      · next segment column sums' hsegment =>
        obtain ⟨numbers, hnumbers, -, hr⟩ := segment?_eq_ok_iff.mp hsegment
        simp only [Prod.mk.injEq] at hr
        obtain ⟨rfl, rfl, rfl⟩ := hr
        have hgroup : numbersOf text = numbers := by
          rw [numbersOf, hnumbers]
        rw [groupsOnLine_cons hempty, hgroup]
        -- The sums that the reader goes on with are those of the groups with this one.
        have hcolumn : columnOn line before + numbers.getD 0 0 =
            columnOn line (before ++ [⟨line, numbers⟩]) :=
          (columnOn_concat before ⟨line, numbers⟩).symm
        have hsums : (sumsOf before).add numbers = sumsOf (before ++ [⟨line, numbers⟩]) :=
          (sumsOf_concat before ⟨line, numbers⟩).symm
        split at h
        · simp at h
        · next others sums'' hrest =>
          simp only [Except.ok.injEq, Prod.mk.injEq] at h
          obtain ⟨rfl, rfl⟩ := h
          rw [hcolumn, hsums] at hrest
          obtain ⟨hothers, hafter⟩ := ih hrest
          rw [segmentsAfter, segmentAfter_eq, hothers, hafter, List.append_assoc,
            List.singleton_append]
          exact ⟨rfl, rfl⟩

/-- What holds of every segment that can be read on a line holds of all that are read from it. -/
lemma forall_of_line? {P : Segment → Prop} {line : ℕ}
    (hP : ∀ column sums text r, segment? line column sums text = .ok r → P r.1) {column : ℤ}
    {sums : Sums} {texts : List (List Char)} {r : List Segment × Sums}
    (h : line? line column sums texts = .ok r) : ∀ s ∈ r.1, P s := by
  induction texts generalizing column sums r with
  | nil =>
    simp only [line?, Except.ok.injEq] at h
    subst h
    simp
  | cons text rest ih =>
    rw [line?] at h
    split at h
    · exact ih h
    · split at h
      · simp at h
      · next segment column' sums' hsegment =>
        split at h
        · simp at h
        · next others sums'' hrest =>
          simp only [Except.ok.injEq] at h
          subst h
          intro s hs
          rcases List.mem_cons.mp hs with rfl | hs
          · exact hP column sums text _ hsegment
          · exact ih hrest s hs

/-- What holds of every segment that can be read on any line holds of all that are read. -/
lemma forall_of_lines? {P : Segment → Prop}
    (hP : ∀ line < lineLimit, ∀ column sums text r,
      segment? line column sums text = .ok r → P r.1) {number : ℕ} {sums : Sums}
    {texts : List (List Char)} {lines : List (List Segment)}
    (h : lines? number sums texts = .ok lines) : ∀ s ∈ lines.flatten, P s := by
  induction texts generalizing number sums lines with
  | nil =>
    simp only [lines?, Except.ok.injEq] at h
    subst h
    simp
  | cons text rest ih =>
    rw [lines?] at h
    split at h
    · simp at h
    · next segments sums' hline =>
      split at h
      · simp at h
      · next others hrest =>
        simp only [Except.ok.injEq] at h
        subst h
        intro s hs
        rcases List.mem_append.mp hs with hs | hs
        · exact forall_of_line? (hP _ (Nat.mod_lt number (by decide))) hline s hs
        · exact ih hrest s hs

/-- The groups of a list of lines are those of the first one and those of the others. -/
lemma groupsFrom_cons (number : ℕ) (text : List Char) (rest : List (List Char)) :
    groupsFrom number (text :: rest) =
      groupsOnLine number (Text.splitOn ',' text) ++ groupsFrom (number + 1) rest := by
  simp [groupsFrom]

/-- The groups of a line have its number. -/
lemma line_of_mem_groupsOnLine {line : ℕ} {texts : List (List Char)} {g : Group}
    (h : g ∈ groupsOnLine line texts) : g.line = line := by
  obtain ⟨text, -, rfl⟩ := List.mem_map.mp h
  rfl

/-- **All lines.**  If the reader has the sums of groups on earlier lines, it reads the segments of
the groups on the lines that follow, as long as the numbers of lines can be told apart. -/
lemma lines?_eq_segmentsAfter {number : ℕ} {before : List Group} {texts : List (List Char)}
    {lines : List (List Segment)} (hlimit : number + texts.length ≤ lineLimit)
    (hbefore : ∀ g ∈ before, g.line < number)
    (h : lines? number (sumsOf before) texts = .ok lines) :
    lines.flatten = segmentsAfter before (groupsFrom number texts) := by
  induction texts generalizing number before lines with
  | nil =>
    simp only [lines?, Except.ok.injEq] at h
    subst h
    rfl
  | cons text rest ih =>
    rw [List.length_cons] at hlimit
    have hnumber : number % lineLimit = number := Nat.mod_eq_of_lt (by omega)
    rw [lines?, hnumber, ← columnOn_of_lt hbefore] at h
    split at h
    · simp at h
    · next segments sums hline =>
      obtain ⟨rfl, rfl⟩ := line?_eq_segmentsAfter hline
      split at h
      · simp at h
      · next others hrest =>
        simp only [Except.ok.injEq] at h
        subst h
        have hnext : ∀ g ∈ before ++ groupsOnLine number (Text.splitOn ',' text),
            g.line < number + 1 := by
          intro g hg
          rcases List.mem_append.mp hg with hg | hg
          · exact (hbefore g hg).trans (Nat.lt_succ_self number)
          · rw [line_of_mem_groupsOnLine hg]
            exact Nat.lt_succ_self number
        have hothers := ih (by omega) hnext hrest
        rw [List.flatten_cons, hothers, groupsFrom_cons, segmentsAfter_append]

/-- The lines that a text is read into hold the written segments. -/
theorem flatten_eq_written {text : List Char} {lines : List (List Segment)}
    (hlimit : (Text.splitOn ';' text).length ≤ lineLimit)
    (h : lines? 0 Sums.start (Text.splitOn ';' text) = .ok lines) :
    lines.flatten = written text := by
  rw [written_eq_segmentsAfter]
  have hstart : Sums.start = sumsOf [] := rfl
  rw [hstart] at h
  exact lines?_eq_segmentsAfter (by omega) (by simp) h

end Mappings

end Retrace
