import Mathlib
import Retrace.Proofs.SourceMap.RoundTrip

/-!
# Reading from left to right

`Mappings.decode?` cuts the whole text into lines and the lines into segments before it reads any of
them.  This file tells the same as a run over the *pieces* of the text, which are its segments and
the separators between them.  After each piece the reader stands somewhere (`Progress`): there are
lines that are done, segments of the line at hand, and registers, which hold the sums of the numbers
so far.  `decode?_eq_run` says that the run comes to what is decoded.

The pieces of a longer text are those of the shorter one and more (`pieces_append`), so that a run
over them goes on where the other one ends.  That makes decoding a matter of left and right
(`decode?_leftToRight`): what fails goes on to fail with the same error, whatever is written behind
it, and this is the error of the first bad segment; what a text decodes to stays in front of what is
decoded from the lines behind it.

How numbers are summed is a parameter of the run (`Summing`).
-/

namespace Retrace

namespace Mappings

/-! ### Pieces of a text -/

/-- A segment of a text, or a separator between segments or lines. -/
inductive Piece
  | segment (text : List Char)
  | comma
  | semicolon

/-- The pieces of a text. -/
def pieces : List Char → List Piece
  | [] => []
  | c :: rest =>
    if c = ';' then .semicolon :: pieces rest
    else if c = ',' then .comma :: pieces rest
    else
      match pieces rest with
      | .segment text :: others => .segment (c :: text) :: others
      | others => .segment [c] :: others

/-- A comma is a piece of its own. -/
lemma pieces_comma (rest : List Char) : pieces (',' :: rest) = .comma :: pieces rest := by
  simp [pieces]

/-- A semicolon is a piece of its own. -/
lemma pieces_semicolon (rest : List Char) : pieces (';' :: rest) = .semicolon :: pieces rest := by
  simp [pieces]

/-- What does not go on with a segment adds its own pieces. -/
lemma pieces_append (text : List Char) {rest : List Char} (h : Breaks rest) :
    pieces (text ++ rest) = pieces text ++ pieces rest := by
  induction text with
  | nil => rfl
  | cons c text ih =>
    rw [List.cons_append, pieces, pieces, ih]
    by_cases hsemicolon : c = ';'
    · simp [hsemicolon]
    · by_cases hcomma : c = ','
      · simp [hcomma]
      · rw [if_neg hsemicolon, if_neg hcomma, if_neg hsemicolon, if_neg hcomma]
        cases htext : pieces text with
        | cons piece others => cases piece <;> rfl
        | nil =>
          -- The last segment of the first text ends where the rest starts with a separator.
          cases rest with
          | nil => rfl
          | cons d rest =>
            rcases h with rfl | rfl
            · rw [pieces_comma]
              rfl
            · rw [pieces_semicolon]
              rfl

/-- A text without separators is one segment. -/
lemma pieces_of_segment {text : List Char} (hne : text ≠ [])
    (htext : ∀ c ∈ text, c ≠ ',' ∧ c ≠ ';') : pieces text = [.segment text] := by
  induction text with
  | nil => exact absurd rfl hne
  | cons c text ih =>
    obtain ⟨hcomma, hsemicolon⟩ := htext c List.mem_cons_self
    rw [pieces, if_neg hsemicolon, if_neg hcomma]
    by_cases hnil : text = []
    · rw [hnil]
      rfl
    · rw [ih hnil fun d hd => htext d (List.mem_cons_of_mem c hd)]

/-- Induction over the pieces of a text. -/
@[elab_as_elim]
theorem pieces_induction {motive : List Char → Prop} (nil : motive [])
    (comma : ∀ rest, motive rest → motive (',' :: rest))
    (semicolon : ∀ rest, motive rest → motive (';' :: rest))
    (segment : ∀ text rest, text ≠ [] → (∀ c ∈ text, c ≠ ',' ∧ c ≠ ';') → Breaks rest →
      motive rest → motive (text ++ rest))
    (text : List Char) : motive text := by
  induction hlength : text.length using Nat.strong_induction_on generalizing text with
  | _ length ih =>
    cases text with
    | nil => exact nil
    | cons c text =>
      have hrest : motive text := ih text.length (by simp [← hlength]) text rfl
      by_cases hcomma : c = ','
      · rw [hcomma]
        exact comma text hrest
      by_cases hsemicolon : c = ';'
      · rw [hsemicolon]
        exact semicolon text hrest
      -- The segment is what stands before the first separator.
      set inSegment : Char → Bool := fun d => d ≠ ',' && d ≠ ';' with hinSegment
      have hsplit : text.takeWhile inSegment ++ text.dropWhile inSegment = text :=
        List.takeWhile_append_dropWhile
      have hsegment : ∀ d ∈ c :: text.takeWhile inSegment, d ≠ ',' ∧ d ≠ ';' := by
        intro d hd
        rcases List.mem_cons.mp hd with rfl | hd
        · exact ⟨hcomma, hsemicolon⟩
        · simpa [hinSegment] using List.mem_takeWhile_imp hd
      have hbreaks : Breaks (text.dropWhile inSegment) := by
        cases hdrop : text.dropWhile inSegment with
        | nil => trivial
        | cons d others =>
          have hd : inSegment d = false := by
            have hhead := List.head_dropWhile_not inSegment (l := text) (by simp [hdrop])
            simpa [hdrop] using hhead
          rw [hinSegment] at hd
          simp only [ne_eq, Bool.and_eq_false_iff, decide_eq_false_iff_not, not_not] at hd
          exact hd
      have hlater : motive (text.dropWhile inSegment) := by
        refine ih _ ?_ _ rfl
        have hle := (List.dropWhile_suffix inSegment (l := text)).length_le
        rw [← hlength, List.length_cons]
        omega
      rw [← hsplit, ← List.cons_append]
      exact segment _ _ (by simp) hsegment hbreaks hlater

/-! ### A run over pieces -/

/-- How the numbers of segments are summed: the registers at the start of a text, the segment and
the registers that the text of a segment gives on a generated line, and what is left of the
registers on the next line. -/
structure Summing (ρ ε : Type) where
  start : ρ
  segment? : ℕ → ρ → List Char → Except ε (Segment × ρ)
  nextLine : ρ → ρ

/-- How far a text was read: the segments of the lines that are done, those of the line at hand, and
the registers. -/
structure Progress (ρ : Type) where
  done : List (List Segment)
  current : List Segment
  registers : ρ

/-- The segments of all lines, those of the line at hand included. -/
def Progress.lines {ρ : Type} (p : Progress ρ) : List (List Segment) := p.done ++ [p.current]

/-- The mappings of all lines, each in the order of its columns. -/
def Progress.mappings {ρ : Type} (p : Progress ρ) : Mappings :=
  ⟨(p.lines.map sortLine).flatten⟩

section Runs

variable {ρ ε : Type} (S : Summing ρ ε)

/-- Nothing was read yet. -/
def Progress.start : Progress ρ := ⟨[], [], S.start⟩

/-- Reads one more piece. -/
def Progress.step (p : Progress ρ) : Piece → Except ε (Progress ρ)
  | .comma => .ok p
  | .semicolon => .ok ⟨p.lines, [], S.nextLine p.registers⟩
  | .segment text =>
    match S.segment? (p.done.length % lineLimit) p.registers text with
    | .error e => .error e
    | .ok (segment, registers) => .ok ⟨p.done, p.current ++ [segment], registers⟩

/-- Reads pieces one after the other. -/
def Progress.run (p : Progress ρ) (ps : List Piece) : Except ε (Progress ρ) :=
  ps.foldlM (Progress.step S) p

/-- A run over pieces and more goes on where the run over the first ones ends. -/
lemma Progress.run_append (p : Progress ρ) (ps others : List Piece) :
    p.run S (ps ++ others) = p.run S ps >>= fun q => q.run S others :=
  List.foldlM_append

/-- A run over a piece and others takes a step and goes on. -/
lemma Progress.run_cons (p : Progress ρ) (piece : Piece) (ps : List Piece) :
    p.run S (piece :: ps) = p.step S piece >>= fun q => q.run S ps :=
  List.foldlM_cons

/-- A run over no pieces ends where it starts. -/
@[simp] lemma Progress.run_nil (p : Progress ρ) : p.run S [] = .ok p := rfl

variable {S}

/-- What each step keeps, a run keeps. -/
lemma Progress.invariant_run {P : Progress ρ → Prop}
    (hstep : ∀ p piece q, P p → p.step S piece = .ok q → P q) {p q : Progress ρ}
    {ps : List Piece} (hp : P p) (h : p.run S ps = .ok q) : P q := by
  induction ps generalizing p with
  | nil =>
    obtain rfl : p = q := Except.ok.inj h
    exact hp
  | cons piece ps ih =>
    rw [run_cons, bind_eq_ok_iff] at h
    obtain ⟨p', hp', hrest⟩ := h
    exact ih (hstep p piece p' hp hp') hrest

/-- A run fails if there is a segment, the first bad one, that fails where the run over the pieces
in front of it ends. -/
lemma Progress.run_eq_error_iff {p : Progress ρ} {ps : List Piece} {e : ε} :
    p.run S ps = .error e ↔
      ∃ before text after q, ps = before ++ .segment text :: after ∧ p.run S before = .ok q ∧
        S.segment? (q.done.length % lineLimit) q.registers text = .error e := by
  constructor
  · intro h
    induction ps generalizing p with
    | nil => cases h
    | cons piece ps ih =>
      rw [run_cons] at h
      cases hstep : p.step S piece with
      | ok p' =>
        rw [hstep] at h
        obtain ⟨before, text, after, q, rfl, hbefore, htext⟩ := ih h
        refine ⟨piece :: before, text, after, q, rfl, ?_, htext⟩
        rw [run_cons, hstep]
        exact hbefore
      | error e' =>
        -- Only a segment can fail.
        rw [hstep] at h
        obtain rfl : e' = e := Except.error.inj h
        cases piece with
        | comma => cases hstep
        | semicolon => cases hstep
        | segment text =>
          refine ⟨[], text, ps, p, rfl, rfl, ?_⟩
          rw [step] at hstep
          split at hstep
          · next e'' htext =>
            rw [htext, Except.error.inj hstep]
          · cases hstep
  · rintro ⟨before, text, after, q, rfl, hbefore, htext⟩
    rw [run_append, hbefore]
    change q.run S (.segment text :: after) = .error e
    rw [run_cons, step, htext]
    rfl

/-- A step leaves the lines that are done. -/
lemma Progress.done_prefix_step {p q : Progress ρ} {piece : Piece}
    (h : p.step S piece = .ok q) : p.done <+: q.done := by
  cases piece with
  | comma =>
    obtain rfl : p = q := Except.ok.inj h
    exact List.prefix_rfl
  | semicolon =>
    obtain rfl := Except.ok.inj h
    exact List.prefix_append p.done [p.current]
  | segment text =>
    rw [step] at h
    split at h
    · cases h
    · obtain rfl := Except.ok.inj h
      exact List.prefix_rfl

/-- A run leaves the lines that are done. -/
lemma Progress.done_prefix_run {p q : Progress ρ} {ps : List Piece} (h : p.run S ps = .ok q) :
    p.done <+: q.done :=
  invariant_run (P := fun r => p.done <+: r.done)
    (fun _ _ _ hr hstep => hr.trans (done_prefix_step hstep)) List.prefix_rfl h

end Runs

/-! ### Decoding as a run -/

/-- Sums without a bound, the column of the line in front. -/
def exactSums : Summing (ℤ × Sums) Error where
  start := (0, Sums.start)
  segment? line registers text := Mappings.segment? line registers.1 registers.2 text
  nextLine registers := (0, registers.2)

/-- Reads a text on from where another one was read to, line by line. -/
def Progress.readOn (p : Progress (ℤ × Sums)) (text : List Char) :
    Except Error (List (List Segment)) :=
  match Text.splitOn ';' text with
  | [] => .ok p.lines
  | first :: rest =>
    match line? (p.done.length % lineLimit) p.registers.1 p.registers.2
        (Text.splitOn ',' first) with
    | .error e => .error e
    | .ok (segments, sums) =>
      (lines? (p.done.length + 1) sums rest).map fun lines =>
        p.done ++ (p.current ++ segments) :: lines

/-- Reading on at a comma. -/
lemma Progress.readOn_comma (p : Progress (ℤ × Sums)) (rest : List Char) :
    p.readOn (',' :: rest) = p.readOn rest := by
  obtain ⟨first, others, hsplit⟩ := exists_splitOn ';' rest
  rw [readOn, readOn, splitOn_comma hsplit, hsplit]
  simp only [Text.splitOn_cons_self, line?, List.isEmpty_nil, if_true]

/-- Reading on at a semicolon. -/
lemma Progress.readOn_semicolon (p : Progress (ℤ × Sums)) (rest : List Char) :
    p.readOn (';' :: rest) = (⟨p.lines, [], (0, p.registers.2)⟩ : Progress (ℤ × Sums)).readOn rest := by
  obtain ⟨first, others, hsplit⟩ := exists_splitOn ';' rest
  have hlength : p.lines.length = p.done.length + 1 := by simp [lines]
  rw [readOn, readOn, Text.splitOn_cons_self, hsplit]
  simp only [Text.splitOn, line?, List.isEmpty_nil, if_true, lines?, hlength]
  cases line? ((p.done.length + 1) % lineLimit) 0 p.registers.2 (Text.splitOn ',' first) with
  | error e => rfl
  | ok r =>
    simp only
    cases lines? (p.done.length + 1 + 1) r.2 others with
    | error e => rfl
    | ok ls => simp [Except.map, lines]

/-- Reading on at a segment. -/
lemma Progress.readOn_segment (p : Progress (ℤ × Sums)) {text rest : List Char} (hne : text ≠ [])
    (htext : ∀ c ∈ text, c ≠ ',' ∧ c ≠ ';') (hrest : Breaks rest) :
    p.readOn (text ++ rest) = p.step exactSums (.segment text) >>= fun q => q.readOn rest := by
  obtain ⟨first, others, hsplit⟩ := exists_splitOn ';' rest
  obtain ⟨parts, hparts, hsplit', hparts'⟩ := hrest.splitOn_segment htext hsplit
  have hnonempty : ¬ text.isEmpty := by simpa using hne
  rw [readOn, hsplit', step]
  simp only [hparts', line?, if_neg hnonempty, exactSums]
  cases segment? (p.done.length % lineLimit) p.registers.1 p.registers.2 text with
  | error e => rfl
  | ok r =>
    obtain ⟨segment, column, sums⟩ := r
    change _ = (⟨p.done, p.current ++ [segment], (column, sums)⟩ : Progress (ℤ × Sums)).readOn rest
    rw [readOn, hsplit]
    simp only [hparts, line?, List.isEmpty_nil, if_true]
    cases line? (p.done.length % lineLimit) column sums parts with
    | error e => rfl
    | ok r =>
      simp only [List.append_assoc, List.singleton_append]

/-- Reading on line by line comes to what a run over the pieces comes to. -/
lemma Progress.readOn_eq_run (p : Progress (ℤ × Sums)) (text : List Char) :
    p.readOn text = (p.run exactSums (pieces text)).map Progress.lines := by
  induction text using pieces_induction generalizing p with
  | nil => simp [readOn, Text.splitOn, line?, lines?, pieces, Except.map, lines]
  | comma rest ih =>
    rw [readOn_comma, ih, pieces_comma, run_cons]
    rfl
  | semicolon rest ih =>
    rw [readOn_semicolon, ih, pieces_semicolon, run_cons]
    rfl
  | segment text rest hne htext hrest ih =>
    rw [readOn_segment p hne htext hrest, pieces_append text hrest, pieces_of_segment hne htext,
      List.singleton_append, run_cons]
    cases p.step exactSums (.segment text) with
    | error e => rfl
    | ok q => exact ih q

/-- The run over a whole text. -/
def course (text : List Char) : Except Error (Progress (ℤ × Sums)) :=
  (Progress.start exactSums).run exactSums (pieces text)

/-- **Decoding as a run.**  What a text decodes to are the mappings at the end of its run. -/
theorem decode?_eq_course (text : List Char) :
    decode? text = (course text).map Progress.mappings := by
  have hread : (Progress.start exactSums).readOn text =
      lines? 0 Sums.start (Text.splitOn ';' text) := by
    obtain ⟨first, rest, hsplit⟩ := exists_splitOn ';' text
    rw [Progress.readOn, hsplit, lines?]
    simp only [Progress.start, exactSums, List.length_nil]
    cases line? (0 % lineLimit) 0 Sums.start (Text.splitOn ',' first) with
    | error e => rfl
    | ok r =>
      simp only
      cases lines? (0 + 1) r.2 rest <;> rfl
  rw [decode?, ← hread, Progress.readOn_eq_run, course]
  cases (Progress.start exactSums).run exactSums (pieces text) <;> rfl

/-- A text fails to decode if its run fails. -/
lemma decode?_eq_error_iff {text : List Char} {e : Error} :
    decode? text = .error e ↔ course text = .error e := by
  rw [decode?_eq_course]
  cases course text <;> simp [Except.map]

/-- What a text decodes to are the mappings at the end of its run. -/
lemma decode?_eq_ok_iff {text : List Char} {m : Mappings} :
    decode? text = .ok m ↔ ∃ p, course text = .ok p ∧ p.mappings = m := by
  rw [decode?_eq_course]
  cases course text <;> simp [Except.map]

/-! ### Longer texts -/

/-- The run over a text goes on where the run over its first part ends, if no segment is cut. -/
lemma course_append (text : List Char) {rest : List Char} (h : Breaks rest) :
    course (text ++ rest) = course text >>= fun p => p.run exactSums (pieces rest) := by
  rw [course, course, pieces_append text h, Progress.run_append]

/-- What fails fails with the same error if more is written behind it. -/
lemma decode?_append_of_error {text rest : List Char} {e : Error} (hrest : Breaks rest)
    (h : decode? text = .error e) : decode? (text ++ rest) = .error e := by
  rw [decode?_eq_error_iff] at h ⊢
  rw [course_append text hrest, h]
  rfl

/-- Of lines that were read the mappings of the first ones stand in front. -/
lemma Progress.mappings_prefix {ρ : Type} {p q : Progress ρ} (h : p.lines <+: q.lines) :
    p.mappings.segments <+: q.mappings.segments := by
  obtain ⟨rest, hrest⟩ := h
  refine ⟨(rest.map sortLine).flatten, ?_⟩
  rw [mappings, mappings, ← hrest, List.map_append, List.flatten_append]

/-- Lines behind a text leave what the text decodes to in front. -/
lemma exists_of_decode?_semicolon {text rest : List Char} {m : Mappings}
    (h : decode? (text ++ ';' :: rest) = .ok m) :
    ∃ first, decode? text = .ok first ∧ first.segments <+: m.segments := by
  have hbreaks : Breaks (';' :: rest) := Or.inr rfl
  obtain ⟨q, hq, rfl⟩ := decode?_eq_ok_iff.mp h
  rw [course_append text hbreaks, bind_eq_ok_iff] at hq
  obtain ⟨p, hp, hrun⟩ := hq
  rw [pieces_semicolon, Progress.run_cons] at hrun
  -- The semicolon ends the line at hand, and the lines that are done stay.
  have hlines : p.lines <+: q.done := Progress.done_prefix_run hrun
  refine ⟨p.mappings, decode?_eq_ok_iff.mpr ⟨p, hp, rfl⟩, Progress.mappings_prefix ?_⟩
  exact hlines.trans (List.prefix_append q.done [q.current])

/-! ### The first bad segment -/

/-- Whether a text stands between two others as a segment of its own. -/
structure Stands (before segment after : List Char) : Prop where
  opens : ∀ c ∈ before.getLast?, c = ',' ∨ c = ';'
  ne_nil : segment ≠ []
  plain : ∀ c ∈ segment, c ≠ ',' ∧ c ≠ ';'
  breaks : Breaks after

/-- A segment is one of the pieces. -/
lemma Stands.pieces_eq {before segment after : List Char} (h : Stands before segment after) :
    pieces (before ++ (segment ++ after)) =
      pieces before ++ .segment segment :: pieces after := by
  have hrest : pieces (segment ++ after) = .segment segment :: pieces after := by
    rw [pieces_append segment h.breaks, pieces_of_segment h.ne_nil h.plain]
    rfl
  rw [← hrest]
  cases hlast : before.getLast? with
  | none =>
    rw [List.getLast?_eq_none_iff.mp hlast]
    rfl
  | some c =>
    obtain ⟨front, rfl⟩ := List.getLast?_eq_some_iff.mp hlast
    have hc : c = ',' ∨ c = ';' := h.opens c hlast
    have hlong : Breaks (c :: (segment ++ after)) := hc
    have hshort : Breaks [c] := hc
    rw [List.append_assoc, List.singleton_append, pieces_append front hlong,
      pieces_append front hshort, List.append_assoc]
    rcases hc with rfl | rfl
    · rw [pieces_comma, pieces_comma]
      rfl
    · rw [pieces_semicolon, pieces_semicolon]
      rfl

/-- A separator in front of what stands before a segment changes nothing. -/
lemma Stands.cons {before segment after : List Char} (h : Stands before segment after) {c : Char}
    (hc : c = ',' ∨ c = ';') : Stands (c :: before) segment after := by
  refine ⟨?_, h.ne_nil, h.plain, h.breaks⟩
  cases before with
  | nil => simpa using hc
  | cons d before =>
    rw [List.getLast?_cons_cons]
    exact h.opens

/-- Two segments do not stand side by side. -/
lemma Stands.exists_cons {before segment after : List Char} (h : Stands before segment after)
    (hbreaks : Breaks (before ++ (segment ++ after))) :
    ∃ c front, before = c :: front ∧ (c = ',' ∨ c = ';') := by
  cases before with
  | cons c front => exact ⟨c, front, rfl, hbreaks⟩
  | nil =>
    obtain ⟨c, rest, rfl⟩ := List.exists_cons_of_ne_nil h.ne_nil
    obtain ⟨hcomma, hsemicolon⟩ := h.plain c List.mem_cons_self
    exact (hbreaks.elim hcomma hsemicolon).elim

/-- Each piece that is a segment stands in the text behind the pieces before it. -/
lemma exists_stands {text segment : List Char} {ps after : List Piece}
    (h : pieces text = ps ++ .segment segment :: after) :
    ∃ before rest, Stands before segment rest ∧ text = before ++ (segment ++ rest) ∧
      pieces before = ps := by
  induction text using pieces_induction generalizing ps with
  | nil => simp [pieces] at h
  | comma rest ih =>
    rw [pieces_comma] at h
    cases ps with
    | nil => cases h
    | cons piece ps =>
      obtain ⟨rfl, htail⟩ := List.cons.inj h
      obtain ⟨before, rest', hstands, rfl, rfl⟩ := ih htail
      exact ⟨',' :: before, rest', hstands.cons (Or.inl rfl), rfl, pieces_comma before⟩
  | semicolon rest ih =>
    rw [pieces_semicolon] at h
    cases ps with
    | nil => cases h
    | cons piece ps =>
      obtain ⟨rfl, htail⟩ := List.cons.inj h
      obtain ⟨before, rest', hstands, rfl, rfl⟩ := ih htail
      exact ⟨';' :: before, rest', hstands.cons (Or.inr rfl), rfl, pieces_semicolon before⟩
  | segment text rest hne htext hbreaks ih =>
    rw [pieces_append text hbreaks, pieces_of_segment hne htext, List.singleton_append] at h
    cases ps with
    | nil =>
      obtain ⟨heq, -⟩ := List.cons.inj h
      obtain rfl : text = segment := Piece.segment.inj heq
      exact ⟨[], rest, ⟨by simp, hne, htext, hbreaks⟩, rfl, rfl⟩
    | cons piece ps =>
      obtain ⟨rfl, htail⟩ := List.cons.inj h
      obtain ⟨before, rest', hstands, rfl, rfl⟩ := ih htail
      -- What stands between the two segments starts with a separator.
      obtain ⟨c, front, rfl, hc⟩ := hstands.exists_cons hbreaks
      have hshort : Breaks (c :: front) := hc
      refine ⟨text ++ c :: front, rest', ⟨?_, hstands.ne_nil, hstands.plain, hstands.breaks⟩,
        by simp, ?_⟩
      · rw [List.getLast?_append_of_ne_nil text (by simp)]
        exact hstands.opens
      · rw [pieces_append text hshort, pieces_of_segment hne htext]
        rfl

/-- Whether a segment of a text is the first bad one, and its error the given one: the text in front
of it can be read, and where the reader then stands the segment cannot. -/
structure FailsAt (text : List Char) (e : Error) (before segment after : List Char)
    (p : Progress (ℤ × Sums)) : Prop where
  text_eq : text = before ++ (segment ++ after)
  stands : Stands before segment after
  before_eq : course before = .ok p
  segment_eq : segment? (p.done.length % lineLimit) p.registers.1 p.registers.2 segment = .error e

/-- **The first bad segment.**  The error of a text is that of its first bad segment. -/
lemma decode?_eq_error_iff_failsAt {text : List Char} {e : Error} :
    decode? text = .error e ↔ ∃ before segment after p, FailsAt text e before segment after p := by
  rw [decode?_eq_error_iff, course, Progress.run_eq_error_iff]
  constructor
  · rintro ⟨ps, segment, others, p, hpieces, hrun, hsegment⟩
    obtain ⟨before, after, hstands, htext, rfl⟩ := exists_stands hpieces
    exact ⟨before, segment, after, p, htext, hstands, hrun, hsegment⟩
  · rintro ⟨before, segment, after, p, rfl, hstands, hrun, hsegment⟩
    exact ⟨pieces before, segment, pieces after, p, hstands.pieces_eq, hrun, hsegment⟩

/-! ### Left and right -/

/-- **Reading from left to right.**  What fails fails with the same error whatever is written behind
it, on the line or on others, and the error is that of the first bad segment.  What a text decodes
to is the initial part of what it decodes to with more lines behind it.  And each line holds the
segments that the text writes on it, in the order of their columns, whatever stands on the others. -/
theorem decode?_leftToRight :
    (∀ text rest e, decode? text = .error e →
      decode? (text ++ ';' :: rest) = .error e ∧ decode? (text ++ ',' :: rest) = .error e) ∧
    (∀ text rest m, decode? (text ++ ';' :: rest) = .ok m →
      ∃ first, decode? text = .ok first ∧ first.segments <+: m.segments) ∧
    (∀ text e, decode? text = .error e ↔
      ∃ before segment after p, FailsAt text e before segment after p) ∧
    ∀ text m, (Text.splitOn ';' text).length ≤ lineLimit → decode? text = .ok m →
      m.segments.Pairwise (fun s t => s.line ≤ t.line) ∧
      ∀ line, m.segments.filter (fun s => s.line = line) =
        ((written text).filter fun s => s.line = line).mergeSort fun s t =>
          s.column ≤ t.column := by
  refine ⟨?_, ?_, ?_, ?_⟩
  · intro text rest e h
    constructor
    · exact decode?_append_of_error (Or.inr rfl) h
    · exact decode?_append_of_error (Or.inl rfl) h
  · intro text rest m h
    exact exists_of_decode?_semicolon h
  · intro text e
    exact decode?_eq_error_iff_failsAt
  · intro text m hlimit h
    rw [segments_eq_sortByPlace hlimit h]
    constructor
    · exact pairwise_line_of_pairwise_place (pairwise_sortByPlace (written text))
    · exact filter_line_sortByPlace (written text)

/-- A text with a line out of order and a segment of two numbers behind it. -/
def unruly : List Char := "UAAA,LAAA;AA".toList

/-- The segment of two numbers is in error, also in front of a segment that is cut off; and the line
before it is sorted by itself. -/
theorem decode?_unruly :
    decode? unruly = .error (.fieldCount "AA" 1 2) ∧
      decode? (unruly ++ ';' :: ['g']) = .error (.fieldCount "AA" 1 2) ∧
      decode? (unruly ++ ',' :: ['g']) = .error (.fieldCount "AA" 1 2) ∧
      (∃ before segment after p,
        FailsAt (unruly ++ ';' :: ['g']) (.fieldCount "AA" 1 2) before segment after p) ∧
      ∃ first m, decode? "UAAA,LAAA".toList = .ok first ∧
        decode? ("UAAA,LAAA".toList ++ ';' :: "AACA".toList) = .ok m ∧
        first.segments <+: m.segments ∧
        m.segments.filter (fun s => s.line = 0) =
          ((written ("UAAA,LAAA".toList ++ ';' :: "AACA".toList)).filter fun s =>
            s.line = 0).mergeSort fun s t => s.column ≤ t.column := by
  have hbad : decode? unruly = .error (.fieldCount "AA" 1 2) := by cbv
  have hlater : decode? ("UAAA,LAAA".toList ++ ';' :: "AACA".toList) =
      .ok ⟨[⟨0, 5, some ⟨0, 0, 0⟩, none⟩, ⟨0, 10, some ⟨0, 0, 0⟩, none⟩,
        ⟨1, 0, some ⟨0, 1, 0⟩, none⟩]⟩ := by cbv
  have hlimit :
      (Text.splitOn ';' ("UAAA,LAAA".toList ++ ';' :: "AACA".toList)).length ≤ lineLimit := by
    have hlength :
        (Text.splitOn ';' ("UAAA,LAAA".toList ++ ';' :: "AACA".toList)).length = 2 := by cbv
    rw [hlength]
    decide
  obtain ⟨hfails, hstarts, hfirst, hlines⟩ := decode?_leftToRight
  obtain ⟨hsemicolon, hcomma⟩ := hfails unruly ['g'] _ hbad
  obtain ⟨first, hdecode, hinitial⟩ := hstarts _ _ _ hlater
  exact ⟨hbad, hsemicolon, hcomma, (hfirst _ _).mp hsemicolon, first, _, hdecode, hlater, hinitial,
    (hlines _ _ hlimit hlater).2 0⟩

end Mappings

end Retrace
