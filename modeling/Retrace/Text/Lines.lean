/-!
# Lines of a text

A line feed ends a line.  `Text.pieces` keeps the line feeds, so that the pieces join to the text
again; `Text.lines` drops them, together with a carriage return right before one.
-/

namespace Retrace

namespace Text

/-- The pieces of a text, each ending in a line feed except perhaps the last one, and none of them
empty. -/
def pieces : List Char → List (List Char)
  | [] => []
  | c :: rest =>
    if c = '\n' then ['\n'] :: pieces rest
    else
      match pieces rest with
      | [] => [[c]]
      | first :: others => (c :: first) :: others

/-- A piece without its line end, which is a line feed or a carriage return and a line feed. -/
def dropLineEnd (piece : List Char) : List Char :=
  match piece.reverse with
  | '\n' :: '\r' :: rest => rest.reverse
  | '\n' :: rest => rest.reverse
  | _ => piece

/-- The lines of a text, without their ends. -/
def lines (text : List Char) : List (List Char) :=
  (pieces text).map dropLineEnd

@[simp] theorem flatten_pieces (text : List Char) : (pieces text).flatten = text := by
  induction text with
  | nil => rfl
  | cons c rest ih =>
    rw [pieces]
    split
    · next h => simp [ih, h]
    · split <;> simp_all

/-- No piece is empty. -/
theorem ne_nil_of_mem_pieces {text piece : List Char} (h : piece ∈ pieces text) : piece ≠ [] := by
  induction text generalizing piece with
  | nil => cases h
  | cons c rest ih =>
    rw [pieces] at h
    split at h
    · rcases List.mem_cons.mp h with rfl | hrest
      · exact List.cons_ne_nil _ _
      · exact ih hrest
    · split at h
      · rw [List.mem_singleton.mp h]
        exact List.cons_ne_nil _ _
      · next first others hpieces =>
        rcases List.mem_cons.mp h with rfl | hothers
        · exact List.cons_ne_nil _ _
        · exact ih (hpieces ▸ List.mem_cons_of_mem first hothers)

end Text

end Retrace
