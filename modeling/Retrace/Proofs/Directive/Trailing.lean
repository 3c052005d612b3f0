import Mathlib
import Retrace.Proofs.Directive.Line

/-!
# Trailing directives

Whatever a file gives stands in a comment at the end of a line, and no later line gives anything
(`find?_genuine`); lines without the key can be appended to a file without changing what it gives.

The converse holds up to one kind of line (`find?_trailingComment`). A file whose last line with a
directive has a comment at its end gives the value of this comment, unless the line has a mark in
front of the comment that is looked for earlier. Such a mark, in a string for example, hides the
comment, and the lines before decide (`decoy_hides_comment`).
-/

namespace Retrace

namespace Directive

variable {value line source front mark rest : List Char}

/-- A line that ends in a comment which gives a value. -/
inductive EndsInComment (line value : List Char) : Prop
  | lineComment {front mark blanks : List Char} (hmark : mark ∈ lineMarks)
      (hblanks : ∀ c ∈ blanks, Text.isBlank c)
      (hline : Text.trimEnd line = front ++ mark ++ blanks ++ value)
  | blockComment {front mark blanks trailing : List Char} (hmark : mark ∈ blockMarks)
      (hblanks : ∀ c ∈ blanks, Text.isBlank c) (htrailing : ∀ c ∈ trailing, Text.isBlank c)
      (hend : ¬ blockEnd <:+: value)
      (hline : Text.trimEnd line = front ++ mark ++ blanks ++ value ++ trailing ++ blockEnd)

/-- The value behind the mark of a line comment goes up to the end of the line. -/
lemma endsInComment_of_value? (hmark : mark ∈ lineMarks)
    (hline : Text.trimEnd line = front ++ (mark ++ rest)) (h : value? rest = some value) :
    EndsInComment line value := by
  obtain ⟨rfl, -⟩ := value?_eq_some_iff.mp h
  obtain ⟨blanks, trailing, hrest, hblanks, htrailing⟩ := Text.exists_append_trim_append rest
  have htext : Text.trimEnd line = front ++ mark ++ blanks ++ Text.trim rest ++ trailing := by
    rw [hline]
    conv_lhs => rw [hrest]
    simp
  have hnil : trailing = [] := Text.eq_nil_of_trimEnd_eq_append htext htrailing
  rw [hnil, List.append_nil] at htext
  exact .lineComment hmark hblanks htext

/-- The value behind the mark of a block comment goes up to the end of the comment, which ends the
line. -/
lemma endsInComment_of_blockValue? (hmark : mark ∈ blockMarks)
    (hline : Text.trimEnd line = front ++ (mark ++ rest)) (h : blockValue? rest = some value) :
    IsValue value ∧ EndsInComment line value := by
  unfold blockValue? at h
  split at h
  · cases h
  · next inside after hsplit =>
    split at h
    · next hempty =>
      obtain ⟨rfl, hvalue⟩ := value?_eq_some_iff.mp h
      obtain ⟨blanks, trailing, hinside, hblanks, htrailing⟩ :=
        Text.exists_append_trim_append inside
      have hafter := Text.isBlank_of_trim_eq_nil (List.isEmpty_iff.mp hempty)
      have htext : Text.trimEnd line = front ++ mark ++ inside ++ blockEnd ++ after := by
        rw [hline, Text.eq_of_splitFirst?_eq_some hsplit]
        simp
      have hnil : after = [] := Text.eq_nil_of_trimEnd_eq_append htext hafter
      have hend : ¬ blockEnd <:+: Text.trim inside := fun hmem =>
        Text.not_infix_of_splitFirst? (by decide) hsplit
          (hmem.trans ⟨blanks, trailing, hinside.symm⟩)
      have hcomment : Text.trimEnd line =
          front ++ mark ++ blanks ++ Text.trim inside ++ trailing ++ blockEnd := by
        rw [htext, hnil, List.append_nil]
        conv_lhs => rw [hinside]
        simp
      exact ⟨hvalue, .blockComment hmark hblanks htrailing hend hcomment⟩
    · cases h

/-- What a line gives is the value of the comment at its end. -/
lemma endsInComment_of_onLine? (h : onLine? line = some value) :
    IsValue value ∧ EndsInComment line value := by
  rw [onLine?_eq] at h
  obtain ⟨⟨mark, rest⟩, hdeciding, hvalue⟩ := Option.bind_eq_some_iff.mp h
  obtain ⟨hmark, front, hline⟩ := exists_of_deciding? hdeciding
  unfold valueBehind? at hvalue
  split at hvalue
  · next hmem =>
    exact ⟨(value?_eq_some_iff.mp hvalue).2, endsInComment_of_value? hmem hline hvalue⟩
  · next hnot =>
    exact endsInComment_of_blockValue? ((List.mem_append.mp hmark).resolve_left hnot) hline hvalue

/-- A line on its own gives the same as in a file. -/
lemma find?_eq_onLine? (h : '\n' ∉ line) : find? line = onLine? line := by
  by_cases hline : line = []
  · rw [hline]
    decide
  · obtain ⟨ending, others, hpieces, hrest⟩ := Text.exists_pieces_append hline h []
    obtain ⟨hending, hothers⟩ := List.append_eq_nil_iff.mp hrest
    have hnil : others = [] := by
      refine List.eq_nil_iff_forall_not_mem.mpr fun piece hpiece => ?_
      have hmem : piece ∈ Text.pieces (line ++ []) := hpieces ▸ List.mem_cons_of_mem _ hpiece
      exact Text.ne_nil_of_mem_pieces hmem (List.flatten_eq_nil_iff.mp hothers piece hpiece)
    rw [hending, hnil, List.append_nil] at hpieces
    rw [find?_eq_findSome?, hpieces, List.reverse_singleton, List.findSome?_singleton]

/-- A line feed at the end of a file does not matter. -/
lemma find?_concat_newline (source : List Char) : find? (source ++ ['\n']) = find? source := by
  have hnewline : ∀ c ∈ ['\n'], Text.isBlank c := List.forall_mem_singleton.mpr (by decide)
  have hblank : onLine? ['\n'] = none := onLine?_of_blank hnewline
  have hend : ∀ last, onLine? (last ++ ['\n']) = onLine? last := by
    intro last
    unfold onLine?
    rw [Text.trimEnd_append hnewline]
  rw [find?_eq_findSome?, find?_eq_findSome?]
  rcases Text.pieces_concat_newline source with h | ⟨init, last, hpieces, h⟩
  · rw [h, List.reverse_append, List.findSome?_append, List.reverse_singleton,
      List.findSome?_singleton, hblank, Option.none_or]
  · rw [h, hpieces, List.reverse_append, List.reverse_append, List.findSome?_append,
      List.findSome?_append, List.reverse_singleton, List.reverse_singleton,
      List.findSome?_singleton, List.findSome?_singleton, hend]

/-- Lines without the key may follow a file. -/
lemma find?_append_newline {more : List Char} (h : ∀ line ∈ Text.lines more, ¬ key <:+: line) :
    find? (source ++ '\n' :: more) = find? source := by
  have hnone : find? more = none := by
    rw [find?, List.findSome?_eq_none_iff]
    exact fun line hline => onLine?_of_not_key (h line (List.mem_reverse.mp hline))
  rw [find?_eq_findSome?] at hnone
  rw [find?_eq_findSome?, Text.pieces_append_newline, List.reverse_append, List.findSome?_append,
    hnone, Option.none_or, ← find?_eq_findSome?, find?_concat_newline]

/-- **What is found is a trailing directive, and the last one.** A file gives a value only if it is
one, if it stands in a comment at the end of a line, and if no later line on its own gives
anything; a file gives nothing exactly when none of its lines on its own does. Appending lines
without the key never changes what a file gives. -/
theorem find?_genuine (source : List Char) :
    (∀ value, find? source = some value → IsValue value ∧
      ∃ before line later, Text.lines source = before ++ line :: later ∧
        EndsInComment line value ∧ find? line = some value ∧ ∀ other ∈ later, find? other = none) ∧
    (find? source = none ↔ ∀ line ∈ Text.lines source, find? line = none) ∧
    ∀ more, (∀ line ∈ Text.lines more, ¬ key <:+: line) →
      find? (source ++ '\n' :: more) = find? source ∧
        ((∀ c ∈ source.getLast?, c = '\n') → find? (source ++ more) = find? source) := by
  have halone : ∀ line ∈ Text.lines source, find? line = onLine? line := fun line hline =>
    find?_eq_onLine? (Text.newline_not_mem_of_mem_lines hline)
  refine ⟨fun value h => ?_, ?_, fun more hmore => ⟨find?_append_newline hmore, fun hend => ?_⟩⟩
  · rw [find?, List.findSome?_eq_some_iff] at h
    obtain ⟨after, line, before, hlines, hline, hafter⟩ := h
    obtain ⟨hvalue, hcomment⟩ := endsInComment_of_onLine? hline
    have hsplit : Text.lines source = before.reverse ++ line :: after.reverse := by
      rw [← List.reverse_reverse (Text.lines source), hlines]
      simp
    refine ⟨hvalue, before.reverse, line, after.reverse, hsplit, hcomment, ?_, ?_⟩
    · rw [halone line (hsplit ▸ List.mem_append_right _ List.mem_cons_self), hline]
    · intro other hother
      have hmem : other ∈ Text.lines source :=
        hsplit ▸ List.mem_append_right _ (List.mem_cons_of_mem line hother)
      rw [halone other hmem, hafter other (List.mem_reverse.mp hother)]
  · rw [find?, List.findSome?_eq_none_iff]
    simp only [List.mem_reverse]
    exact forall₂_congr fun line hline => by rw [halone line hline]
  · rcases List.eq_nil_or_concat source with rfl | ⟨init, last, rfl⟩
    · rw [List.nil_append, find?, List.findSome?_eq_none_iff.mpr]
      · rfl
      · exact fun line hline => onLine?_of_not_key (hmore line (List.mem_reverse.mp hline))
    · have hlast : last = '\n' := hend last (by simp)
      rw [hlast, List.concat_eq_append, ← List.append_cons, find?_append_newline hmore,
        find?_concat_newline]

/-- A style sheet with an older directive and, after it, a comment with a decoy in front of it; a
line is appended to it. -/
theorem find?_genuine_styleSheet :
    let source := "/*# sourceMappingURL=old.map */\np:'/*@ sourceMappingURL=';/*# sourceMappingURL=a.map\t*/\r\n"
    let more := "/* end */"
    find? source.toList = some "a.map".toList ∧ IsValue "a.map".toList ∧
      (∀ line ∈ Text.lines more.toList, ¬ key <:+: line) ∧
      find? (source ++ more).toList = some "a.map".toList := by
  intro source more
  have hfind : find? source.toList = some "a.map".toList := by decide +kernel
  have hmore : ∀ line ∈ Text.lines more.toList, ¬ key <:+: line := by decide +kernel
  have hlast : source.toList.getLast? = some '\n' := by decide +kernel
  obtain ⟨hsome, -, happend⟩ := find?_genuine source.toList
  refine ⟨hfind, (hsome _ hfind).1, hmore, ?_⟩
  rw [String.toList_append, (happend more.toList hmore).2 (by simp [hlast]), hfind]

/-- **Comments at the end of a line.** If the last line of a file with a directive has a comment at
its end that gives a value, behind any text, then the file gives this value, unless a mark stands in
this text that is looked for before the mark of the comment. If one does, the line gives nothing and
the lines before it decide. -/
theorem find?_trailingComment {before later : List (List Char)}
    (hlines : Text.lines source = before ++ line :: later) (hmark : mark ∈ marks)
    (hline : Text.trimEnd line = front ++ comment mark value) (hvalue : IsValue value)
    (hend : mark ∉ lineMarks → ¬ blockEnd <:+: value)
    (hlater : ∀ other ∈ later, ¬ key <:+: other) :
    ((∀ other ∈ marksBefore mark, ¬ other <:+: front) → find? source = some value) ∧
      ((∃ other ∈ marksBefore mark, other <:+: front) →
        find? source = before.reverse.findSome? onLine?) := by
  have hnone : later.reverse.findSome? onLine? = none := by
    rw [List.findSome?_eq_none_iff]
    exact fun other hother => onLine?_of_not_key (hlater other (List.mem_reverse.mp hother))
  have hfind : find? source = (onLine? line).or (before.reverse.findSome? onLine?) := by
    rw [find?, hlines, List.reverse_append, List.reverse_cons, List.findSome?_append,
      List.findSome?_append, hnone, Option.none_or, List.findSome?_singleton]
  obtain ⟨hfirst, hhidden⟩ := onLine?_comment hmark hvalue hend hline
  constructor
  · intro h
    rw [hfind, hfirst h, Option.some_or]
  · intro h
    rw [hfind, hhidden h, Option.none_or]

/-- A block comment behind a string with a mark that is looked for later. -/
theorem find?_behind_laterMark :
    let line := "s='/*@ sourceMappingURL=x';/*# sourceMappingURL=app.js.map */ ".toList
    let source := "//# sourceMappingURL=old.map\n".toList ++ line ++ "\nend".toList
    find? source = some "app.js.map".toList := by
  intro line source
  have hlines : Text.lines source =
      ["//# sourceMappingURL=old.map".toList] ++ line :: ["end".toList] := by decide +kernel
  have hline : Text.trimEnd line = "s='/*@ sourceMappingURL=x';".toList ++
      comment ("/*# ".toList ++ key) "app.js.map".toList := by decide +kernel
  exact (find?_trailingComment hlines (by decide) hline (by decide +kernel)
    (fun _ => by decide +kernel) (by decide +kernel)).1 (by decide +kernel)

/-- A mark in a string hides the comment at the end of the line. -/
theorem decoy_hides_comment :
    let front := "var s='//# sourceMappingURL=x';".toList
    let value := "app.js.map".toList
    let line := front ++ comment ("/*# ".toList ++ key) value
    Text.lines line = [] ++ line :: [] ∧ Text.trimEnd line = line ∧
      "/*# ".toList ++ key ∈ marks ∧ IsValue value ∧ ¬ blockEnd <:+: value ∧
      find? line = none ∧ find? line ≠ some value := by
  decide +kernel

end Directive

end Retrace
