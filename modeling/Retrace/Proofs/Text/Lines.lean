import Mathlib
import Retrace.Text.Blank
import Retrace.Text.Lines
import Retrace.Text.Search

/-!
# Lines, blanks and marks

What the pieces of a longer text are: a line feed keeps apart what stands before and after it
(`pieces_append_newline`), a text without a line feed stays together whatever follows
(`exists_pieces_append`), and a line feed at the end makes at most a blank piece more
(`pieces_concat_newline`). Line ends are blank, so that they do not matter where blanks at the end
of a line do not (`trimEnd_dropLineEnd`). A mark is the last of its kind if it does not stand again
in the text from its second character on (`afterLast?_of_last`), and the first if it does not stand
in what comes before, taken together with all of the mark but its last character
(`splitFirst?_of_first`).
-/

namespace Retrace

namespace Text

/-! ### Pieces of a longer text -/

/-- A line feed keeps apart the pieces before and after it. -/
lemma pieces_append_newline (first rest : List Char) :
    pieces (first ++ '\n' :: rest) = pieces (first ++ ['\n']) ++ pieces rest := by
  induction first with
  | nil => simp [pieces]
  | cons c first ih =>
    rw [List.cons_append, List.cons_append, pieces, pieces, ih]
    by_cases hc : c = '\n'
    · rw [if_pos hc, if_pos hc, List.cons_append]
    · rw [if_neg hc, if_neg hc]
      -- the pieces up to the line feed are not none, so that the character joins the first of them
      have hne : pieces (first ++ ['\n']) ≠ [] := by
        intro hnil
        have hflatten := flatten_pieces (first ++ ['\n'])
        rw [hnil] at hflatten
        simp at hflatten
      obtain ⟨piece, others, hpieces⟩ := List.exists_cons_of_ne_nil hne
      rw [hpieces]
      rfl

/-- A text without a line feed stands in one piece. -/
lemma exists_pieces_append {text : List Char} (hne : text ≠ []) (hline : '\n' ∉ text)
    (rest : List Char) :
    ∃ ending others, pieces (text ++ rest) = (text ++ ending) :: others ∧
      ending ++ others.flatten = rest := by
  have hpieces : ∃ ending others, pieces (text ++ rest) = (text ++ ending) :: others := by
    induction text with
    | nil => exact absurd rfl hne
    | cons c text ih =>
      have hc : c ≠ '\n' := fun h => hline (h ▸ List.mem_cons_self)
      rw [List.cons_append, pieces, if_neg hc]
      by_cases htext : text = []
      · subst htext
        rw [List.nil_append]
        cases pieces rest with
        | nil => exact ⟨[], [], rfl⟩
        | cons first others => exact ⟨first, others, rfl⟩
      · obtain ⟨ending, others, h⟩ := ih htext fun h => hline (List.mem_cons_of_mem c h)
        rw [h]
        exact ⟨ending, others, rfl⟩
  obtain ⟨ending, others, h⟩ := hpieces
  have hflatten := flatten_pieces (text ++ rest)
  rw [h, List.flatten_cons, List.append_assoc] at hflatten
  exact ⟨ending, others, h, List.append_cancel_left hflatten⟩

/-- A piece has no line feed but perhaps the one that ends it. -/
lemma exists_of_mem_pieces {text piece : List Char} (h : piece ∈ pieces text) :
    ∃ line, '\n' ∉ line ∧ (piece = line ∨ piece = line ++ ['\n']) := by
  induction text generalizing piece with
  | nil => cases h
  | cons c text ih =>
    rw [pieces] at h
    split at h
    · rcases List.mem_cons.mp h with rfl | hmem
      · exact ⟨[], List.not_mem_nil, .inr rfl⟩
      · exact ih hmem
    · next hc =>
      have hcons : ∀ {line : List Char}, '\n' ∉ line → '\n' ∉ c :: line := by
        intro line hline hmem
        rcases List.mem_cons.mp hmem with heq | hmem
        · exact hc heq.symm
        · exact hline hmem
      split at h
      · rw [List.mem_singleton.mp h]
        exact ⟨[c], hcons List.not_mem_nil, .inl rfl⟩
      · next first others hpieces =>
        rcases List.mem_cons.mp h with rfl | hmem
        · obtain ⟨line, hline, hfirst⟩ := ih (hpieces ▸ List.mem_cons_self)
          refine ⟨c :: line, hcons hline, ?_⟩
          rcases hfirst with rfl | rfl
          · exact .inl rfl
          · exact .inr rfl
        · exact ih (hpieces ▸ List.mem_cons_of_mem first hmem)

/-- A line feed at the end of a text is a piece of its own or ends the last piece. -/
lemma pieces_concat_newline (text : List Char) :
    pieces (text ++ ['\n']) = pieces text ++ [['\n']] ∨
      ∃ init last, pieces text = init ++ [last] ∧
        pieces (text ++ ['\n']) = init ++ [last ++ ['\n']] := by
  induction text with
  | nil => exact .inl rfl
  | cons c text ih =>
    rw [List.cons_append, pieces, pieces]
    by_cases hc : c = '\n'
    · rw [if_pos hc, if_pos hc]
      rcases ih with h | ⟨init, last, hpieces, h⟩
      · rw [h]
        exact .inl rfl
      · rw [h, hpieces]
        exact .inr ⟨['\n'] :: init, last, rfl, rfl⟩
    · rw [if_neg hc, if_neg hc]
      -- the character joins the first piece, which may be the last one too
      rcases ih with h | ⟨init, last, hpieces, h⟩
      · rw [h]
        cases pieces text with
        | nil => exact .inr ⟨[], [c], rfl, rfl⟩
        | cons first others => exact .inl rfl
      · rw [h, hpieces]
        cases init with
        | nil => exact .inr ⟨[], c :: last, rfl, rfl⟩
        | cons first others => exact .inr ⟨(c :: first) :: others, last, rfl, rfl⟩

/-! ### Blanks at the end -/

/-- Blanks at the end of a text do not matter without them. -/
lemma trimEnd_append {blanks : List Char} (h : ∀ c ∈ blanks, isBlank c) (text : List Char) :
    trimEnd (text ++ blanks) = trimEnd text := by
  have hdrop : blanks.reverse.dropWhile isBlank = [] :=
    List.dropWhile_eq_nil_iff.mpr fun c hc => h c (List.mem_reverse.mp hc)
  rw [trimEnd, List.reverse_append, List.dropWhile_append, hdrop]
  rfl

/-- A text that ends in a character that is not blank has no blanks at its end. -/
lemma trimEnd_concat {c : Char} (h : isBlank c = false) (text : List Char) :
    trimEnd (text ++ [c]) = text ++ [c] := by
  rw [trimEnd, List.reverse_append, List.reverse_singleton, List.singleton_append,
    List.dropWhile_cons, h]
  simp

/-- A text that ends in a text without blanks has none at its end. -/
lemma trimEnd_append_of_not_blank {last : List Char} (hne : last ≠ [])
    (h : ∀ c ∈ last, isBlank c = false) (text : List Char) :
    trimEnd (text ++ last) = text ++ last := by
  obtain ⟨init, c, rfl⟩ := List.eq_nil_or_concat last |>.resolve_left hne
  rw [List.concat_eq_append, ← List.append_assoc]
  exact trimEnd_concat (h c (by simp)) (text ++ init)

/-- A text without blanks has none at either end. -/
lemma trim_of_not_blank {text : List Char} (h : ∀ c ∈ text, isBlank c = false) :
    trim text = text := by
  by_cases hne : text = []
  · subst hne
    rfl
  · have hstart : trimStart text = text := by
      obtain ⟨c, rest, rfl⟩ := List.exists_cons_of_ne_nil hne
      rw [trimStart, List.dropWhile_cons, h c List.mem_cons_self]
      simp
    rw [trim, hstart]
    exact trimEnd_append_of_not_blank hne h []

/-- What a piece loses with its line end is blank. -/
lemma exists_dropLineEnd_append (piece : List Char) :
    ∃ ending, piece = dropLineEnd piece ++ ending ∧ ∀ c ∈ ending, isBlank c := by
  have hblank : isBlank '\n' ∧ isBlank '\r' := by decide
  unfold dropLineEnd
  split
  · next rest h =>
    refine ⟨['\r', '\n'], ?_, ?_⟩
    · rw [← List.reverse_reverse piece, h]
      simp
    · simpa using ⟨hblank.2, hblank.1⟩
  · next rest _ h =>
    refine ⟨['\n'], ?_, ?_⟩
    · rw [← List.reverse_reverse piece, h]
      simp
    · simpa using hblank.1
  · exact ⟨[], by simp, by simp⟩

/-- A line end does not matter without blanks at the end. -/
lemma trimEnd_dropLineEnd (piece : List Char) : trimEnd (dropLineEnd piece) = trimEnd piece := by
  obtain ⟨ending, hpiece, hblank⟩ := exists_dropLineEnd_append piece
  conv_rhs => rw [hpiece]
  exact (trimEnd_append hblank _).symm

/-- What a piece has in front of its line feed is the line, but perhaps for the end of the line. -/
lemma prefix_dropLineEnd (line : List Char) : dropLineEnd (line ++ ['\n']) <+: line := by
  have hreverse : (line ++ ['\n']).reverse = '\n' :: line.reverse := by simp
  unfold dropLineEnd
  rw [hreverse]
  split
  · next rest h =>
    obtain ⟨-, hrest⟩ := List.cons.inj h
    exact ⟨['\r'], by rw [← List.reverse_reverse line, hrest, List.reverse_cons]⟩
  · next rest _ h =>
    rw [← (List.cons.inj h).2, List.reverse_reverse]
  · next hnot => exact absurd rfl (hnot line.reverse)

/-- A line has no line feed. -/
lemma newline_not_mem_of_mem_lines {text line : List Char} (h : line ∈ lines text) :
    '\n' ∉ line := by
  obtain ⟨piece, hpiece, rfl⟩ := List.mem_map.mp h
  obtain ⟨line, hline, rfl | rfl⟩ := exists_of_mem_pieces hpiece
  · obtain ⟨ending, heq, -⟩ := exists_dropLineEnd_append piece
    exact fun hmem => hline (heq ▸ List.mem_append_left ending hmem)
  · exact fun hmem => hline ((prefix_dropLineEnd line).mem hmem)

/-- What a text loses at its start is blank. -/
lemma exists_append_trimStart (text : List Char) :
    ∃ blanks, text = blanks ++ trimStart text ∧ ∀ c ∈ blanks, isBlank c :=
  ⟨text.takeWhile isBlank, (List.takeWhile_append_dropWhile).symm, fun _ => List.mem_takeWhile_imp⟩

/-- What a text loses at its end is blank. -/
lemma exists_trimEnd_append (text : List Char) :
    ∃ blanks, text = trimEnd text ++ blanks ∧ ∀ c ∈ blanks, isBlank c := by
  obtain ⟨blanks, heq, hblank⟩ := exists_append_trimStart text.reverse
  have htext := congrArg List.reverse heq
  rw [List.reverse_reverse, List.reverse_append] at htext
  exact ⟨blanks.reverse, htext, fun c hc => hblank c (List.mem_reverse.mp hc)⟩

/-- A text without the blanks at its ends, and these blanks. -/
lemma exists_append_trim_append (text : List Char) :
    ∃ leading trailing, text = leading ++ trim text ++ trailing ∧
      (∀ c ∈ leading, isBlank c) ∧ ∀ c ∈ trailing, isBlank c := by
  obtain ⟨leading, hstart, hleading⟩ := exists_append_trimStart text
  obtain ⟨trailing, hend, htrailing⟩ := exists_trimEnd_append (trimStart text)
  refine ⟨leading, trailing, ?_, hleading, htrailing⟩
  rw [trim, List.append_assoc, ← hend, ← hstart]

/-- A text that is nothing without the blanks at its ends is blank. -/
lemma isBlank_of_trim_eq_nil {text : List Char} (h : trim text = []) : ∀ c ∈ text, isBlank c := by
  obtain ⟨leading, trailing, htext, hleading, htrailing⟩ := exists_append_trim_append text
  rw [h, List.append_nil] at htext
  intro c hc
  rw [htext, List.mem_append] at hc
  exact hc.elim (hleading c) (htrailing c)

/-- A text without blanks at its end does not end in blanks. -/
lemma eq_nil_of_trimEnd_eq_append {text before blanks : List Char}
    (h : trimEnd text = before ++ blanks) (hblanks : ∀ c ∈ blanks, isBlank c) : blanks = [] := by
  have hreverse : text.reverse.dropWhile isBlank = blanks.reverse ++ before.reverse := by
    rw [← List.reverse_append, ← h, trimEnd, List.reverse_reverse]
  by_contra hne
  obtain ⟨last, others, hlast⟩ := List.exists_cons_of_ne_nil (List.reverse_ne_nil_iff.mpr hne)
  have hhead := List.head?_dropWhile_not isBlank text.reverse
  rw [hreverse, hlast, List.cons_append, List.head?_cons] at hhead
  have hblank := hblanks last (List.mem_reverse.mp (hlast ▸ List.mem_cons_self))
  exact absurd hblank (ne_true_of_eq_false hhead)

/-- What stands from a character on that is not blank is not lost at the start. -/
lemma exists_trimStart_eq_append {c : Char} (hc : isBlank c = false) (before after : List Char) :
    ∃ kept, trimStart (before ++ c :: after) = kept ++ c :: after := by
  rw [trimStart, List.dropWhile_append]
  split
  · exact ⟨[], by rw [List.dropWhile_cons, hc]; simp⟩
  · exact ⟨before.dropWhile isBlank, rfl⟩

/-- What stands up to a character that is not blank is not lost at the end. -/
lemma exists_trimEnd_eq_append {c : Char} (hc : isBlank c = false) (before after : List Char) :
    ∃ kept, trimEnd (before ++ c :: after) = before ++ c :: kept := by
  obtain ⟨kept, h⟩ := exists_trimStart_eq_append hc after.reverse before.reverse
  have hreverse : (before ++ c :: after).reverse = after.reverse ++ c :: before.reverse := by simp
  have hend : trimEnd (before ++ c :: after) =
      (trimStart (before ++ c :: after).reverse).reverse := rfl
  exact ⟨kept.reverse, by rw [hend, hreverse, h]; simp⟩

/-! ### Marks -/

/-- What follows a last mark follows that mark. -/
lemma exists_eq_append_of_afterLast? {mark text rest : List Char}
    (h : afterLast? mark text = some rest) : ∃ before, text = before ++ (mark ++ rest) := by
  induction text with
  | nil =>
    rw [afterLast?] at h
    have htext := after?_eq_some_iff.mp h
    exact ⟨[], htext⟩
  | cons c text ih =>
    rw [afterLast?] at h
    split at h
    · next _ hlast =>
      obtain ⟨before, hbefore⟩ := ih (hlast.trans h)
      exact ⟨c :: before, by rw [hbefore, List.cons_append]⟩
    · have htext := after?_eq_some_iff.mp h
      exact ⟨[], htext⟩

/-- A mark that does not stand in a text is not found there. -/
lemma afterLast?_eq_none {mark text : List Char} (h : ¬ mark <:+: text) :
    afterLast? mark text = none := by
  rw [Option.eq_none_iff_forall_ne_some]
  intro rest hlast
  obtain ⟨before, hbefore⟩ := exists_eq_append_of_afterLast? hlast
  exact h ⟨before, rest, by rw [hbefore, List.append_assoc]⟩

/-- A mark that stands in a text is found there. -/
lemma exists_afterLast?_eq_some {mark text : List Char} (h : mark <:+: text) :
    ∃ rest, afterLast? mark text = some rest := by
  induction text with
  | nil =>
    rw [List.eq_nil_of_infix_nil h]
    exact ⟨[], rfl⟩
  | cons c text ih =>
    rw [afterLast?]
    split
    · next rest _ => exact ⟨rest, rfl⟩
    · next hnone =>
      rcases List.infix_cons_iff.mp h with ⟨rest, hrest⟩ | hinside
      · exact ⟨rest, after?_eq_some_iff.mpr hrest.symm⟩
      · obtain ⟨rest, hrest⟩ := ih hinside
        rw [hrest] at hnone
        cases hnone

/-- A mark is the last of its kind if it does not stand in the text again from its second character
on. -/
lemma afterLast?_of_last {mark rest : List Char} (h : ¬ mark <:+: (mark ++ rest).tail)
    (before : List Char) : afterLast? mark (before ++ (mark ++ rest)) = some rest := by
  induction before with
  | nil =>
    cases mark with
    | nil => exact absurd List.nil_infix h
    | cons m mark =>
      have hnone : afterLast? (m :: mark) (mark ++ rest) = none := afterLast?_eq_none h
      rw [List.nil_append, List.cons_append, afterLast?, hnone]
      exact after?_append (m :: mark) rest
  | cons c before ih => rw [List.cons_append, afterLast?, ih]

/-- A mark does not stand across a character that it does not have. -/
lemma infix_of_infix_append_cons {mark before after : List Char} {d : Char} (hd : d ∉ mark)
    (h : mark <:+: before ++ d :: after) : mark <:+: before ∨ mark <:+: after := by
  induction before with
  | nil =>
    rw [List.nil_append, List.infix_cons_iff] at h
    rcases h with hfront | hinside
    · cases mark with
      | nil => exact .inl List.nil_infix
      | cons m mark => exact absurd ((List.cons_prefix_cons.mp hfront).1 ▸ List.mem_cons_self) hd
    · exact .inr hinside
  | cons c before ih =>
    rw [List.cons_append, List.infix_cons_iff] at h
    rcases h with hstart | hinside
    · have hfront : c :: before <+: c :: (before ++ d :: after) := ⟨d :: after, rfl⟩
      rcases List.prefix_or_prefix_of_prefix hstart hfront with hmark | ⟨tail, htail⟩
      · exact .inl hmark.isInfix
      · -- the mark goes on past the text in front of the character
        cases tail with
        | nil => exact .inl (by rw [← htail, List.append_nil])
        | cons m tail =>
          rw [← htail, List.cons_append, List.cons_prefix_cons, List.prefix_append_right_inj,
            List.cons_prefix_cons] at hstart
          exact absurd (htail ▸ List.mem_append_right _ (hstart.2.1 ▸ List.mem_cons_self)) hd
    · rcases ih hinside with hmark | hmark
      · exact .inl (List.infix_cons hmark)
      · exact .inr hmark

/-- A mark does not stand in what comes before the first of its kind. -/
lemma not_infix_of_splitFirst? {mark text before rest : List Char} (hne : mark ≠ [])
    (h : splitFirst? mark text = some (before, rest)) : ¬ mark <:+: before := by
  have hnil : ¬ mark <:+: [] := fun hinside => hne (List.eq_nil_of_infix_nil hinside)
  induction text generalizing before with
  | nil =>
    rw [splitFirst?] at h
    obtain ⟨_, -, heq⟩ := Option.map_eq_some_iff.mp h
    rw [← (Prod.mk.inj heq).1]
    exact hnil
  | cons c text ih =>
    rw [splitFirst?] at h
    split at h
    · rw [← (Prod.mk.inj (Option.some.inj h)).1]
      exact hnil
    · next hnone =>
      obtain ⟨⟨first, others⟩, hsplit, heq⟩ := Option.map_eq_some_iff.mp h
      obtain ⟨rfl, rfl⟩ := Prod.mk.inj heq
      rw [List.infix_cons_iff]
      rintro (⟨tail, htail⟩ | hinside)
      · have htext : c :: text = mark ++ (tail ++ (mark ++ others)) := by
          rw [eq_of_splitFirst?_eq_some hsplit, ← List.cons_append, ← htail, List.append_assoc]
        rw [after?_eq_some_iff.mpr htext] at hnone
        cases hnone
      · exact ih hsplit hinside

/-- A text is split at a mark if the mark does not stand before, not even with only its last
character beyond. -/
lemma splitFirst?_of_first {mark before : List Char} (hne : mark ≠ [])
    (h : ¬ mark <:+: before ++ mark.dropLast) (rest : List Char) :
    splitFirst? mark (before ++ (mark ++ rest)) = some (before, rest) := by
  induction before with
  | nil =>
    obtain ⟨m, tail, rfl⟩ := List.exists_cons_of_ne_nil hne
    have hafter := after?_append (m :: tail) rest
    rw [List.cons_append] at hafter
    rw [List.nil_append, List.cons_append, splitFirst?, hafter]
  | cons c before ih =>
    have hnone : after? mark (c :: (before ++ (mark ++ rest))) = none := by
      rw [Option.eq_none_iff_forall_ne_some]
      intro tail hafter
      have hmark : mark <+: c :: (before ++ (mark ++ rest)) :=
        ⟨tail, (after?_eq_some_iff.mp hafter).symm⟩
      have hfront : c :: before ++ mark.dropLast <+: c :: (before ++ (mark ++ rest)) := by
        have hlast := List.dropLast_append_getLast hne
        refine ⟨mark.getLast hne :: rest, ?_⟩
        conv_rhs => rw [← hlast]
        simp
      refine h (List.prefix_of_prefix_length_le hmark hfront ?_).isInfix
      simp only [List.cons_append, List.length_cons, List.length_append, List.length_dropLast]
      omega
    have hbefore : ¬ mark <:+: before ++ mark.dropLast := fun hinside => h (List.infix_cons hinside)
    rw [List.cons_append, splitFirst?, hnone]
    simp only [ih hbefore, Option.map_some]

/-- The parts before a separator and the parts after it. -/
lemma splitOn_append_cons (separator : Char) (text rest : List Char) :
    splitOn separator (text ++ separator :: rest) =
      splitOn separator text ++ splitOn separator rest := by
  induction text with
  | nil => simp [splitOn]
  | cons c text ih =>
    rw [List.cons_append, splitOn, splitOn, ih]
    by_cases hc : c = separator
    · rw [if_pos hc, if_pos hc, List.cons_append]
    · rw [if_neg hc, if_neg hc]
      obtain ⟨part, parts, hparts⟩ := List.exists_cons_of_ne_nil (splitOn_ne_nil separator text)
      rw [hparts]
      rfl

end Text

end Retrace
