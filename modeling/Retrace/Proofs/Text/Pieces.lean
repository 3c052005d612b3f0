import Mathlib
import Retrace.Proofs.Text.Lines

/-!
# The pieces of a text and their number

The pieces of a text are lines that keep their ends (`arePieces_pieces`), and any such lines are the
pieces of the text that they join to (`ArePieces.pieces_flatten`). So some pieces of a text, next to
each other, are the pieces of what they join to. Their number is that of the line feeds, and one
more if something stands behind the last one (`length_pieces`).
-/

namespace Retrace

namespace Text

/-- Lines, each with the line feed that ends it; only the last one may have none, but then it is not
empty. -/
inductive ArePieces : List (List Char) → Prop
  | nil : ArePieces []
  | unended {line : List Char} (hline : '\n' ∉ line) (hne : line ≠ []) : ArePieces [line]
  | ended {line : List Char} {rest : List (List Char)} (hline : '\n' ∉ line)
      (hrest : ArePieces rest) : ArePieces ((line ++ ['\n']) :: rest)

/-- The pieces of a text are lines with their ends. -/
lemma arePieces_pieces (text : List Char) : ArePieces (pieces text) := by
  induction text with
  | nil => exact .nil
  | cons c text ih =>
    rw [pieces]
    split
    · have hnone : '\n' ∉ ([] : List Char) := List.not_mem_nil
      exact .ended hnone ih
    · next hc =>
      have hcons : ∀ {line : List Char}, '\n' ∉ line → '\n' ∉ c :: line := fun hline hmem =>
        (List.mem_cons.mp hmem).elim (fun heq => hc heq.symm) hline
      split
      · exact .unended (hcons List.not_mem_nil) (List.cons_ne_nil c [])
      · next first others hpieces =>
        -- the character joins the first piece, which has a line feed at its end or is the only one
        rw [hpieces] at ih
        cases ih with
        | unended hline _ => exact .unended (hcons hline) (List.cons_ne_nil c _)
        | ended hline hrest => exact .ended (hcons hline) hrest

/-- A line is one piece, with a line feed or without. -/
lemma pieces_line {line : List Char} (hline : '\n' ∉ line) :
    pieces (line ++ ['\n']) = [line ++ ['\n']] ∧ (line ≠ [] → pieces line = [line]) := by
  induction line with
  | nil => exact ⟨rfl, fun hne => absurd rfl hne⟩
  | cons c line ih =>
    obtain ⟨hc, hline⟩ : '\n' ≠ c ∧ '\n' ∉ line := by simpa using hline
    obtain ⟨hended, hunended⟩ := ih hline
    refine ⟨?_, fun _ => ?_⟩
    · rw [List.cons_append, pieces, if_neg hc.symm, hended]
    · rw [pieces, if_neg hc.symm]
      by_cases hne : line = []
      · rw [hne]
        rfl
      · rw [hunended hne]

/-- Lines with their ends are the pieces of the text that they join to. -/
lemma ArePieces.pieces_flatten {parts : List (List Char)} (h : ArePieces parts) :
    pieces parts.flatten = parts := by
  induction h with
  | nil => rfl
  | unended hline hne =>
    rw [List.flatten_singleton]
    exact (pieces_line hline).2 hne
  | ended hline _ ih =>
    rw [List.flatten_cons, List.append_assoc, List.singleton_append, pieces_append_newline,
      (pieces_line hline).1, ih, List.singleton_append]

/-- Lines with their ends are so in two parts. -/
lemma ArePieces.of_append {first second : List (List Char)} (h : ArePieces (first ++ second)) :
    ArePieces first ∧ ArePieces second := by
  induction first with
  | nil => exact ⟨.nil, h⟩
  | cons piece first ih =>
    rw [List.cons_append] at h
    generalize hrest : first ++ second = rest at h
    cases h with
    | unended hline hne =>
      obtain ⟨rfl, rfl⟩ := List.append_eq_nil_iff.mp hrest
      exact ⟨.unended hline hne, .nil⟩
    | ended hline h =>
      obtain ⟨hfirst, hsecond⟩ := ih (hrest ▸ h)
      exact ⟨.ended hline hfirst, hsecond⟩

/-! ### The number of lines -/

/-- The number of the lines of a text: those that a line feed ends, and what stands behind the last
line feed if it is not empty. -/
def lineCount (text : List Char) : ℕ :=
  text.count '\n' + if text.getLast?.all (· == '\n') then 0 else 1

/-- A line in front makes one more. -/
lemma lineCount_append_newline {line : List Char} (hline : '\n' ∉ line) (rest : List Char) :
    lineCount (line ++ '\n' :: rest) = lineCount rest + 1 := by
  have hcount : (line ++ '\n' :: rest).count '\n' = rest.count '\n' + 1 := by
    rw [List.count_append, List.count_eq_zero_of_not_mem hline, List.count_cons_self, Nat.zero_add]
  have hlast : (line ++ '\n' :: rest).getLast?.all (· == '\n') =
      rest.getLast?.all (· == '\n') := by
    cases rest with
    | nil => simp
    | cons c rest =>
      rw [List.append_cons, List.getLast?_append_of_ne_nil _ (List.cons_ne_nil c rest)]
  rw [lineCount, lineCount, hcount, hlast]
  omega

/-- A line without a line feed is one line. -/
lemma lineCount_line {line : List Char} (hline : '\n' ∉ line) (hne : line ≠ []) :
    lineCount line = 1 := by
  have hlast : line.getLast hne ≠ '\n' := fun heq => hline (heq ▸ List.getLast_mem hne)
  rw [lineCount, List.count_eq_zero_of_not_mem hline, List.getLast?_eq_some_getLast hne]
  simp [hlast]

/-- Lines with their ends are as many as the text that they join to has. -/
lemma ArePieces.lineCount_flatten {parts : List (List Char)} (h : ArePieces parts) :
    lineCount parts.flatten = parts.length := by
  induction h with
  | nil => rfl
  | unended hline hne =>
    rw [List.flatten_singleton, lineCount_line hline hne, List.length_singleton]
  | ended hline _ ih =>
    rw [List.flatten_cons, List.append_assoc, List.singleton_append,
      lineCount_append_newline hline, ih, List.length_cons]

/-- A text has as many pieces as lines. -/
theorem length_pieces (text : List Char) : (pieces text).length = lineCount text := by
  rw [← (arePieces_pieces text).lineCount_flatten, flatten_pieces]

end Text

end Retrace
