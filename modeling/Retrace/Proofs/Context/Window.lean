import Mathlib
import Retrace.Context
import Retrace.Proofs.Text.Pieces

/-!
# The window of an excerpt

The line of an excerpt and the lines before and after it are cut out of the source as they stand
there (`around_cuts_window`): nothing is lost between them, and on either side there are as many
lines as the window has room for and the source has. An excerpt is empty only for a line that the
source does not have.
-/

namespace Retrace

namespace Excerpt

variable {source : String} {number window : ℕ} {line : List Char}

/-- The excerpt around a line that the source has. -/
lemma around_of_getElem? (hnumber : number ≠ 0)
    (hline : (Text.pieces source.toList)[number - 1]? = some line) :
    around source number window =
      ⟨String.ofList line,
        String.ofList (((Text.pieces source.toList).take (number - 1)).drop
          (number - 1 - window)).flatten,
        String.ofList (((Text.pieces source.toList).drop number).take window).flatten⟩ := by
  rw [around]
  simp only [if_neg hnumber, hline]

/-- The excerpt around a line that the source does not have. -/
lemma around_of_outside (h : number = 0 ∨ Text.lineCount source.toList < number) :
    around source number window = empty := by
  rw [around]
  by_cases hnumber : number = 0
  · simp only [if_pos hnumber]
  · have hlength : (Text.pieces source.toList).length ≤ number - 1 := by
      have hcount := h.resolve_left hnumber
      rw [Text.length_pieces]
      omega
    simp only [if_neg hnumber, List.getElem?_eq_none hlength]

/-- An excerpt around a line that the source has is not empty. -/
lemma isEmpty_of_getElem? (hnumber : number ≠ 0)
    (hline : (Text.pieces source.toList)[number - 1]? = some line) :
    (around source number window).isEmpty = false := by
  have hne : line ≠ [] := Text.ne_nil_of_mem_pieces (List.mem_of_getElem? hline)
  rw [around_of_getElem? hnumber hline, isEmpty]
  simp [hne]

/-- An element of a list with up to `window` elements on either side, and what is left of the list
in front of them and behind them. -/
lemma eq_append_window {α : Type*} {list : List α} {i : ℕ} {a : α} (h : list[i]? = some a)
    (window : ℕ) :
    list = list.take (i - window) ++ (list.take i).drop (i - window) ++ [a] ++
      (list.drop (i + 1)).take window ++ list.drop (i + 1 + window) := by
  obtain ⟨hi, ha⟩ := List.getElem?_eq_some_iff.mp h
  have hfront : list.take (i - window) ++ (list.take i).drop (i - window) = list.take i := by
    have htake : list.take (i - window) = (list.take i).take (i - window) := by
      rw [List.take_take, Nat.min_eq_left (Nat.sub_le i window)]
    rw [htake, List.take_append_drop]
  have hback : (list.drop (i + 1)).take window ++ list.drop (i + 1 + window) =
      list.drop (i + 1) := by
    have hdrop : list.drop (i + 1 + window) = (list.drop (i + 1)).drop window :=
      (List.drop_drop ..).symm
    rw [hdrop, List.take_append_drop]
  have hmiddle : list.drop i = a :: list.drop (i + 1) := by
    rw [List.drop_eq_getElem_cons hi, ha]
  rw [hfront, List.append_assoc, hback, List.append_assoc, List.singleton_append, ← hmiddle,
    List.take_append_drop]

/-- An excerpt is empty exactly if the source does not have the line. -/
lemma isEmpty_around_iff (source : String) (number window : ℕ) :
    (around source number window).isEmpty ↔ number = 0 ∨ Text.lineCount source.toList < number := by
  by_cases houtside : number = 0 ∨ Text.lineCount source.toList < number
  · rw [around_of_outside houtside]
    exact ⟨fun _ => houtside, fun _ => rfl⟩
  · have hlt : number - 1 < (Text.pieces source.toList).length := by
      rw [Text.length_pieces]
      omega
    have hfilled : (around source number window).isEmpty = false :=
      isEmpty_of_getElem? (by omega) (List.getElem?_eq_getElem hlt)
    rw [hfilled]
    exact ⟨fun h => (by cases h), fun h => absurd h houtside⟩

/-! ### The parts of a source -/

/-- The pieces of a source, cut for the excerpt around a line: the window before and after the line,
and what is in front of it and behind it. -/
structure IsCut (source : String) (number window : ℕ) (front before : List (List Char))
    (line : List Char) (after back : List (List Char)) : Prop where
  pieces : Text.pieces source.toList = front ++ before ++ [line] ++ after ++ back
  around : around source number window =
    ⟨String.ofList line, String.ofList before.flatten, String.ofList after.flatten⟩
  front_length : front.length = number - 1 - min window (number - 1)
  before_length : before.length = min window (number - 1)
  after_length : after.length = min window (Text.lineCount source.toList - number)

/-- A source is cut so around each of its lines. -/
lemma exists_isCut (source : String) {number : ℕ} (window : ℕ) (hpos : 1 ≤ number)
    (hle : number ≤ Text.lineCount source.toList) :
    ∃ front before line after back, IsCut source number window front before line after back := by
  have hcount := Text.length_pieces source.toList
  have hlt : number - 1 < (Text.pieces source.toList).length := by omega
  have hline := List.getElem?_eq_getElem hlt
  have hnumber : number - 1 + 1 = number := by omega
  have hparts := eq_append_window hline window
  rw [hnumber] at hparts
  refine ⟨_, _, _, _, _, hparts, around_of_getElem? (by omega) hline, ?_, ?_, ?_⟩
  · rw [List.length_take]
    omega
  · rw [List.length_drop, List.length_take]
    omega
  · rw [List.length_take, List.length_drop, hcount]

section IsCut

variable {front before after back : List (List Char)}

/-- Each part is the pieces of what it joins to. -/
lemma IsCut.arePieces (h : IsCut source number window front before line after back) :
    Text.ArePieces front ∧ Text.ArePieces before ∧ Text.ArePieces after ∧ Text.ArePieces back := by
  have hpieces := Text.arePieces_pieces source.toList
  rw [h.pieces] at hpieces
  obtain ⟨hpieces, hback⟩ := hpieces.of_append
  obtain ⟨hpieces, hafter⟩ := hpieces.of_append
  obtain ⟨hpieces, -⟩ := hpieces.of_append
  obtain ⟨hfront, hbefore⟩ := hpieces.of_append
  exact ⟨hfront, hbefore, hafter, hback⟩

/-- The line stands at its number. -/
lemma IsCut.getElem?_pieces (h : IsCut source number window front before line after back) :
    (Text.pieces source.toList)[number - 1]? = some line := by
  have hindex : number - 1 = (front ++ before).length := by
    rw [List.length_append, h.front_length, h.before_length]
    omega
  rw [h.pieces, hindex]
  simp

/-- The parts join to the source. -/
lemma IsCut.source_eq (h : IsCut source number window front before line after back) :
    source = String.ofList front.flatten ++ String.ofList before.flatten ++ String.ofList line ++
      String.ofList after.flatten ++ String.ofList back.flatten := by
  apply String.toList_inj.mp
  conv_lhs => rw [← Text.flatten_pieces source.toList, h.pieces]
  simp

/-- A window as large as the source leaves nothing out of it. -/
lemma IsCut.nothing_left (h : IsCut source number window front before line after back)
    (hwindow : Text.lineCount source.toList ≤ window) : front = [] ∧ back = [] := by
  have hcount := Text.length_pieces source.toList
  have hfront := h.front_length
  have hbefore := h.before_length
  have hafter := h.after_length
  rw [h.pieces] at hcount
  simp only [List.length_append, List.length_singleton] at hcount
  exact ⟨List.eq_nil_of_length_eq_zero (by omega), List.eq_nil_of_length_eq_zero (by omega)⟩

end IsCut

/-- **The window around a line.** An excerpt around a line that the source has is cut out of it at
the ends of lines: in front of it stand the lines that the window has no room for, before the line
as many as the window has room for, and likewise after it. A window as large as the source gives all
of it. The excerpt is empty exactly if the source does not have the line. -/
theorem around_cuts_window (source : String) (number window : ℕ) :
    let count := Text.lineCount source.toList
    let excerpt := around source number window
    (1 ≤ number → number ≤ count →
      (Text.pieces source.toList)[number - 1]? = some excerpt.line.toList ∧
      Text.lineCount excerpt.before.toList = min window (number - 1) ∧
      Text.lineCount excerpt.after.toList = min window (count - number) ∧
      (∃ front back : String,
        source = front ++ excerpt.before ++ excerpt.line ++ excerpt.after ++ back ∧
        Text.pieces source.toList = Text.pieces front.toList ++
          Text.pieces excerpt.before.toList ++ [excerpt.line.toList] ++
          Text.pieces excerpt.after.toList ++ Text.pieces back.toList ∧
        Text.lineCount front.toList = number - 1 - min window (number - 1)) ∧
      (count ≤ window → excerpt.before ++ excerpt.line ++ excerpt.after = source)) ∧
    (excerpt.isEmpty ↔ number = 0 ∨ count < number) := by
  intro count excerpt
  refine ⟨fun hpos hle => ?_, isEmpty_around_iff source number window⟩
  obtain ⟨front, before, line, after, back, hcut⟩ := exists_isCut source window hpos hle
  obtain ⟨hfront, hbefore, hafter, hback⟩ := hcut.arePieces
  have hexcerpt : excerpt =
      ⟨String.ofList line, String.ofList before.flatten, String.ofList after.flatten⟩ := hcut.around
  simp only [hexcerpt, String.toList_ofList, hbefore.lineCount_flatten, hafter.lineCount_flatten]
  refine ⟨hcut.getElem?_pieces, hcut.before_length, hcut.after_length,
    ⟨String.ofList front.flatten, String.ofList back.flatten, hcut.source_eq, ?_, ?_⟩,
    fun hwindow => ?_⟩
  · rw [String.toList_ofList, String.toList_ofList, hfront.pieces_flatten, hbefore.pieces_flatten,
      hafter.pieces_flatten, hback.pieces_flatten, hcut.pieces]
  · rw [String.toList_ofList, hfront.lineCount_flatten, hcut.front_length]
  · obtain ⟨rfl, rfl⟩ := hcut.nothing_left hwindow
    rw [hcut.source_eq]
    simp

/-- The window around a blank line, with a carriage return in one of its lines and no line feed at
the end of the other. -/
theorem around_blankLine :
    let source := "a\r\nb\r\n\nc"
    let excerpt := around source 3 1
    Text.lineCount source.toList = 4 ∧ excerpt = ⟨"\n", "b\r\n", "c"⟩ ∧
      excerpt.isEmpty = false ∧
      ∃ front back : String,
        source = front ++ excerpt.before ++ excerpt.line ++ excerpt.after ++ back ∧
        Text.lineCount front.toList = 1 := by
  intro source excerpt
  have hcount : Text.lineCount source.toList = 4 := by decide +kernel
  obtain ⟨hcut, hempty⟩ := around_cuts_window source 3 1
  obtain ⟨-, -, -, ⟨front, back, hsource, -, hfront⟩, -⟩ :=
    hcut (by decide) (hcount.symm ▸ by decide)
  have hfilled : excerpt.isEmpty = false := by
    rw [← Bool.not_eq_true, hempty, hcount]
    decide
  exact ⟨hcount, by decide +kernel, hfilled, front, back, hsource, hfront⟩

end Excerpt

end Retrace
