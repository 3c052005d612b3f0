import Mathlib
import Retrace.Proofs.SourceMap.Order
import Retrace.Proofs.SourceMap.Vlq

/-!
# Mappings read back from their text

`Mappings.encode` writes segments in the order of their lines, each as the differences to the
segments before it. Reading such a text gives the segments again, those of each line in the order of
their columns: `decode?_encode`. Decoded segments are in order already, so that for them writing and
reading changes nothing: `decode?_encode_segments`.

The reader splits the whole text into lines before it reads the first one, and the writer goes from
segment to segment.  The two meet in `readFrom`, which reads a text from within a line; it is enough
to know what it does at a comma, at a semicolon and at the text of a segment (`readFrom_comma`,
`readFrom_semicolon`, `readFrom_segment`).
-/

namespace Retrace

/-- Whether all numbers of a segment have thirty-two bits, and a name stands only where there is a
place in a source. -/
structure Segment.Fits (s : Segment) : Prop where
  line : s.line < 2 ^ 32
  column : s.column < 2 ^ 32
  origin : ∀ o, s.origin = some o → o.source < 2 ^ 32 ∧ o.line < 2 ^ 32 ∧ o.column < 2 ^ 32
  name : ∀ n, s.name = some n → n < 2 ^ 32 ∧ s.origin.isSome

namespace Mappings

/-! ### The numbers of a segment -/

/-- A natural number below the limit is a place. -/
lemma isPlace_natCast {n : ℕ} (h : n < 2 ^ 32) : IsPlace n := by
  unfold IsPlace
  omega

/-- The difference of two places has few digits. -/
lemma natAbs_sub_lt {a b : ℤ} (ha : IsPlace a) (hb : IsPlace b) : (a - b).natAbs < 2 ^ 34 := by
  unfold IsPlace at ha hb
  omega

/-- Whether all sums are places, as they are at the start and after each segment. -/
structure Sums.Fits (sums : Sums) : Prop where
  source : IsPlace sums.source
  line : IsPlace sums.line
  column : IsPlace sums.column
  name : IsPlace sums.name

/-- The sums at the start are places. -/
lemma Sums.fits_start : Sums.start.Fits := by
  constructor <;> exact isPlace_natCast (n := 0) (by decide)

/-- The sums after a segment are places. -/
lemma fits_differences {column : ℕ} {sums : Sums} {s : Segment} (hsums : sums.Fits)
    (hs : s.Fits) : (differences column sums s).2.Fits := by
  unfold differences
  cases horigin : s.origin with
  | none => exact hsums
  | some origin =>
    obtain ⟨hsource, hline, hcolumn⟩ := hs.origin origin horigin
    cases hname : s.name with
    | none =>
      exact ⟨isPlace_natCast hsource, isPlace_natCast hline, isPlace_natCast hcolumn, hsums.name⟩
    | some name =>
      exact ⟨isPlace_natCast hsource, isPlace_natCast hline, isPlace_natCast hcolumn,
        isPlace_natCast (hs.name name hname).1⟩

/-- The numbers of a segment have few digits. -/
lemma natAbs_lt_of_mem_differences {column : ℕ} {sums : Sums} {s : Segment}
    (hcolumn : column < 2 ^ 32) (hsums : sums.Fits) (hs : s.Fits) :
    ∀ n ∈ (differences column sums s).1, n.natAbs < 2 ^ 34 := by
  have hfirst : ((s.column : ℤ) - column).natAbs < 2 ^ 34 :=
    natAbs_sub_lt (isPlace_natCast hs.column) (isPlace_natCast hcolumn)
  unfold differences
  cases horigin : s.origin with
  | none =>
    intro n hn
    rw [List.mem_singleton.mp hn]
    exact hfirst
  | some origin =>
    obtain ⟨hsource, hline, hplace⟩ := hs.origin origin horigin
    have hsource' := natAbs_sub_lt (isPlace_natCast hsource) hsums.source
    have hline' := natAbs_sub_lt (isPlace_natCast hline) hsums.line
    have hplace' := natAbs_sub_lt (isPlace_natCast hplace) hsums.column
    cases hname : s.name with
    | none =>
      intro n hn
      simp only [List.mem_cons, List.not_mem_nil, or_false] at hn
      rcases hn with rfl | rfl | rfl | rfl <;> assumption
    | some name =>
      have hname' := natAbs_sub_lt (isPlace_natCast (hs.name name hname).1) hsums.name
      intro n hn
      simp only [List.cons_append, List.nil_append, List.mem_cons, List.not_mem_nil,
        or_false] at hn
      rcases hn with rfl | rfl | rfl | rfl | rfl <;> assumption

/-- The differences lead from the sums before a segment to those after it, which give the segment
back. -/
lemma segmentOf_differences (column : ℕ) (sums : Sums) {s : Segment} (hs : s.Fits) :
    (differences column sums s).2 = sums.add (differences column sums s).1 ∧
      (column : ℤ) + (differences column sums s).1.getD 0 0 = s.column ∧
        Admits s.column (differences column sums s).2 (differences column sums s).1.length ∧
          segmentOf s.line s.column (differences column sums s).2
            (differences column sums s).1.length = s := by
  have hcolumn : IsPlace (s.column : ℤ) := isPlace_natCast hs.column
  obtain ⟨line, place, origin, name⟩ := s
  unfold differences
  cases origin with
  | none =>
    have hname : name = none := by
      cases name with
      | none => rfl
      | some n => simpa using (hs.name n rfl).2
    subst hname
    refine ⟨by simp [Sums.add], by simp, ⟨by simp, hcolumn, by simp, by simp⟩,
      by simp [segmentOf]⟩
  | some origin =>
    obtain ⟨hsource, hline, hplace⟩ := hs.origin origin rfl
    cases name with
    | none =>
      refine ⟨by simp [Sums.add], by simp, ⟨by simp, hcolumn, fun _ => ?_, by simp⟩,
        by simp [segmentOf]⟩
      exact ⟨isPlace_natCast hsource, isPlace_natCast hline, isPlace_natCast hplace⟩
    | some name =>
      refine ⟨by simp [Sums.add], by simp, ⟨by simp, hcolumn, fun _ => ?_, fun _ => ?_⟩,
        by simp [segmentOf]⟩
      · exact ⟨isPlace_natCast hsource, isPlace_natCast hline, isPlace_natCast hplace⟩
      · exact isPlace_natCast (hs.name name rfl).1

/-- The text of numbers. -/
def textOf (numbers : List ℤ) : List Char := (Vlq.encode numbers).map Vlq.toChar

/-- The text of a segment reads back. -/
lemma segment?_differences {column : ℕ} {sums : Sums} {s : Segment} (hcolumn : column < 2 ^ 32)
    (hsums : sums.Fits) (hs : s.Fits) :
    segment? s.line column sums (textOf (differences column sums s).1) =
      .ok (s, s.column, (differences column sums s).2) := by
  have hnumbers : numbers? (textOf (differences column sums s).1) =
      .ok (differences column sums s).1 := by
    rw [numbers?, textOf, Vlq.encode_map_toChar,
      Vlq.decode?_encode (natAbs_lt_of_mem_differences hcolumn hsums hs)]
  obtain ⟨hafter, hplace, hadmits, hsegment⟩ :=
    segmentOf_differences column sums hs
  refine segment?_eq_ok_iff.mpr ⟨_, hnumbers, ?_⟩
  rw [hplace, ← hafter]
  exact ⟨hadmits, by rw [hsegment]⟩

/-- A segment has a text. -/
lemma textOf_differences_ne_nil (column : ℕ) (sums : Sums) (s : Segment) :
    textOf (differences column sums s).1 ≠ [] := by
  have hne : (differences column sums s).1 ≠ [] := by
    unfold differences
    split
    · simp
    · split <;> simp
  rw [textOf, ne_eq, List.map_eq_nil_iff]
  exact Vlq.encode_ne_nil hne

/-! ### Reading from within a line -/

/-- Reads a text that goes on with a line, of which the segments up to the given column were read
before. -/
def readFrom (line : ℕ) (column : ℤ) (sums : Sums) (text : List Char) :
    Except Error (List Segment) :=
  match Text.splitOn ';' text with
  | [] => .ok []
  | first :: rest =>
    match line? (line % lineLimit) column sums (Text.splitOn ',' first) with
    | .error e => .error e
    | .ok (segments, sums) =>
      (lines? (line + 1) sums rest).map fun lines => segments ++ lines.flatten

/-- A text is split into a first part and others. -/
lemma exists_splitOn (separator : Char) (text : List Char) :
    ∃ first rest, Text.splitOn separator text = first :: rest :=
  List.exists_cons_of_ne_nil (Text.splitOn_ne_nil separator text)

/-- A comma belongs to the line in front of which it stands. -/
lemma splitOn_comma {text first : List Char} {rest : List (List Char)}
    (h : Text.splitOn ';' text = first :: rest) :
    Text.splitOn ';' (',' :: text) = (',' :: first) :: rest := by
  have hcomma : ∀ c ∈ [','], c ≠ ';' := by simp
  exact Text.splitOn_append hcomma h

/-- Reading a text from the start of a line is reading its lines. -/
lemma readFrom_zero (number : ℕ) (sums : Sums) (text : List Char) :
    readFrom number 0 sums text =
      (lines? number sums (Text.splitOn ';' text)).map List.flatten := by
  obtain ⟨first, rest, htext⟩ := exists_splitOn ';' text
  rw [readFrom, htext, lines?]
  simp only
  cases line? (number % lineLimit) 0 sums (Text.splitOn ',' first) with
  | error e => rfl
  | ok r =>
    simp only
    cases lines? (number + 1) r.2 rest with
    | error e => rfl
    | ok lines => rfl

/-- An empty text has no segments. -/
lemma readFrom_nil (line : ℕ) (column : ℤ) (sums : Sums) : readFrom line column sums [] = .ok [] :=
  rfl

/-- A comma changes nothing. -/
lemma readFrom_comma (line : ℕ) (column : ℤ) (sums : Sums) (text : List Char) :
    readFrom line column sums (',' :: text) = readFrom line column sums text := by
  obtain ⟨first, rest, htext⟩ := exists_splitOn ';' text
  have hcomma : Text.splitOn ';' (',' :: text) = (',' :: first) :: rest :=
    splitOn_comma htext
  rw [readFrom, readFrom, hcomma, htext]
  simp only [Text.splitOn_cons_self, line?, List.isEmpty_nil, if_true]

/-- A semicolon starts the next line. -/
lemma readFrom_semicolon (line : ℕ) (column : ℤ) (sums : Sums) (text : List Char) :
    readFrom line column sums (';' :: text) = readFrom (line + 1) 0 sums text := by
  rw [readFrom_zero, readFrom, Text.splitOn_cons_self]
  rfl

/-- So many semicolons start the line so many lines below. -/
lemma readFrom_semicolons {below : ℕ} (hbelow : 0 < below) (line : ℕ) (column : ℤ) (sums : Sums)
    (text : List Char) :
    readFrom line column sums (List.replicate below ';' ++ text) =
      readFrom (line + below) 0 sums text := by
  obtain ⟨n, rfl⟩ := Nat.exists_eq_succ_of_ne_zero hbelow.ne'
  rw [List.replicate_succ, List.cons_append, readFrom_semicolon, Nat.succ_eq_add_one]
  clear hbelow
  induction n generalizing line with
  | zero => rfl
  | succ n ih =>
    rw [List.replicate_succ, List.cons_append, readFrom_semicolon, ih]
    congr 1
    ring

/-- Whether a text does not go on with a segment. -/
def Breaks : List Char → Prop
  | [] => True
  | c :: _ => c = ',' ∨ c = ';'

/-- A text that does not go on with a segment starts with an empty part. -/
lemma Breaks.splitOn {text first : List Char} {rest : List (List Char)} (h : Breaks text)
    (htext : Text.splitOn ';' text = first :: rest) :
    ∃ others, Text.splitOn ',' first = [] :: others := by
  cases text with
  | nil =>
    obtain ⟨rfl, -⟩ := List.cons.inj htext
    exact ⟨[], rfl⟩
  | cons c text =>
    rcases h with rfl | rfl
    · obtain ⟨first', rest', htext'⟩ := exists_splitOn ';' text
      have hcomma : Text.splitOn ';' (',' :: text) = (',' :: first') :: rest' :=
        splitOn_comma htext'
      obtain ⟨rfl, -⟩ := List.cons.inj (hcomma.symm.trans htext)
      exact ⟨_, Text.splitOn_cons_self ',' first'⟩
    · rw [Text.splitOn_cons_self] at htext
      obtain ⟨rfl, -⟩ := List.cons.inj htext
      exact ⟨[], rfl⟩

/-- A segment is the first part of its line, in front of what does not go on with it. -/
lemma Breaks.splitOn_segment {text rest first : List Char} {others : List (List Char)}
    (hrest : Breaks rest) (htext : ∀ c ∈ text, c ≠ ',' ∧ c ≠ ';')
    (hsplit : Text.splitOn ';' rest = first :: others) :
    ∃ parts, Text.splitOn ',' first = [] :: parts ∧
      Text.splitOn ';' (text ++ rest) = (text ++ first) :: others ∧
        Text.splitOn ',' (text ++ first) = text :: parts := by
  obtain ⟨parts, hparts⟩ := hrest.splitOn hsplit
  refine ⟨parts, hparts, Text.splitOn_append (fun c hc => (htext c hc).2) hsplit, ?_⟩
  rw [Text.splitOn_append (fun c hc => (htext c hc).1) hparts, List.append_nil]

/-- The text of a segment gives the segment, if nothing is written behind it without a
separator. -/
lemma readFrom_segment {line : ℕ} {column column' : ℤ} {sums sums' : Sums} {segment : Segment}
    {text rest : List Char} (hne : text ≠ []) (htext : ∀ c ∈ text, c ≠ ',' ∧ c ≠ ';')
    (hrest : Breaks rest)
    (h : segment? (line % lineLimit) column sums text = .ok (segment, column', sums')) :
    readFrom line column sums (text ++ rest) =
      (readFrom line column' sums' rest).map (segment :: ·) := by
  obtain ⟨first, others, hsplit⟩ := exists_splitOn ';' rest
  obtain ⟨parts, hparts, hsplit', hparts'⟩ := hrest.splitOn_segment htext hsplit
  have hnonempty : ¬ text.isEmpty := by simpa using hne
  rw [readFrom, readFrom, hsplit', hsplit]
  simp only [hparts', hparts, line?, if_neg hnonempty, h, List.isEmpty_nil, if_true]
  cases line? (line % lineLimit) column' sums' parts with
  | error e => rfl
  | ok r =>
    simp only
    cases lines? (line + 1) r.2 others with
    | error e => rfl
    | ok lines => rfl

/-! ### What is written -/

/-- What stands between a segment and the one before it, which stands on line `line`. -/
def separators (line : ℕ) (started : Bool) (s : Segment) : List Char :=
  if 0 < s.line - line then List.replicate (s.line - line) ';'
  else if started then [','] else []

/-- The column that the first number of a segment is the difference to. -/
def startColumn (line column : ℕ) (s : Segment) : ℕ :=
  if 0 < s.line - line then 0 else column

/-- The text of segments is that of the first one, behind its separators, and that of the others. -/
lemma encodeFrom_cons (line : ℕ) (started : Bool) (column : ℕ) (sums : Sums) (s : Segment)
    (rest : List Segment) :
    encodeFrom line started column sums (s :: rest) =
      separators line started s ++
        (textOf (differences (startColumn line column s) sums s).1 ++
          encodeFrom s.line true s.column (differences (startColumn line column s) sums s).2
            rest) := by
  simp only [encodeFrom, List.append_assoc]
  rfl

/-- What stands between a segment and the one before it does not go on with that one. -/
lemma breaks_encodeFrom (line column : ℕ) (sums : Sums) (segments : List Segment) :
    Breaks (encodeFrom line true column sums segments) := by
  cases segments with
  | nil => trivial
  | cons s rest =>
    rw [encodeFrom_cons, separators]
    by_cases hbelow : 0 < s.line - line
    · obtain ⟨n, hn⟩ := Nat.exists_eq_succ_of_ne_zero hbelow.ne'
      simp [hn, List.replicate_succ, Breaks]
    · simp [hbelow, Breaks]

/-- Whatever stands in front of a segment, the segment is read on its line and from the column that
its first number is the difference to. -/
lemma readFrom_separators {line : ℕ} {s : Segment} (hle : line ≤ s.line) (started : Bool)
    (column : ℕ) (sums : Sums) (text : List Char) :
    readFrom line column sums (separators line started s ++ text) =
      readFrom s.line (startColumn line column s) sums text := by
  unfold separators startColumn
  by_cases hbelow : 0 < s.line - line
  · have hsum : line + (s.line - line) = s.line := by omega
    rw [if_pos hbelow, if_pos hbelow, readFrom_semicolons hbelow, hsum]
    rfl
  · have hsame : line = s.line := by omega
    rw [if_neg hbelow, if_neg hbelow, hsame]
    cases started with
    | false => rfl
    | true => exact readFrom_comma s.line column sums text

/-- Reading what was written from a place on, with the sums that were reached there. -/
lemma readFrom_encodeFrom {line : ℕ} {started : Bool} {column : ℕ} {sums : Sums}
    {segments : List Segment} (hcolumn : column < 2 ^ 32) (hsums : sums.Fits)
    (hfits : ∀ s ∈ segments, s.Fits) (hline : ∀ s ∈ segments, line ≤ s.line)
    (hlines : segments.Pairwise fun s t => s.line ≤ t.line) :
    readFrom line column sums (encodeFrom line started column sums segments) = .ok segments := by
  induction segments generalizing line started column sums with
  | nil => exact readFrom_nil line column sums
  | cons s rest ih =>
    have hs : s.Fits := hfits s List.mem_cons_self
    have hle : line ≤ s.line := hline s List.mem_cons_self
    rw [List.pairwise_cons] at hlines
    have hstart : startColumn line column s < 2 ^ 32 := by
      unfold startColumn
      split
      · decide
      · exact hcolumn
    set numbers := (differences (startColumn line column s) sums s).1 with hnumbers
    set after := (differences (startColumn line column s) sums s).2 with hafter
    have hsegment : segment? (s.line % lineLimit) (startColumn line column s) sums
        (textOf numbers) = .ok (s, s.column, after) := by
      have hmod : s.line % lineLimit = s.line := Nat.mod_eq_of_lt hs.line
      rw [hmod]
      exact segment?_differences hstart hsums hs
    have hrest : readFrom s.line s.column after (encodeFrom s.line true s.column after rest) =
        .ok rest :=
      ih hs.column (fits_differences hsums hs) (fun t ht => hfits t (List.mem_cons_of_mem s ht))
        hlines.1 hlines.2
    rw [encodeFrom_cons, readFrom_separators hle,
      readFrom_segment (textOf_differences_ne_nil _ sums s) (fun c hc => Vlq.not_separator hc)
        (breaks_encodeFrom _ _ _ _) hsegment, hrest]
    rfl

/-- No line is written past the last one that can be told apart. -/
lemma count_encodeFrom_lt {line : ℕ} (started : Bool) (column : ℕ) (sums : Sums)
    {segments : List Segment} (hlimit : line < lineLimit) (hfits : ∀ s ∈ segments, s.Fits)
    (hline : ∀ s ∈ segments, line ≤ s.line)
    (hlines : segments.Pairwise fun s t => s.line ≤ t.line) :
    line + (encodeFrom line started column sums segments).count ';' < lineLimit := by
  induction segments generalizing line started column sums with
  | nil => simpa [encodeFrom] using hlimit
  | cons s rest ih =>
    have hle : line ≤ s.line := hline s List.mem_cons_self
    have hs : s.line < lineLimit := (hfits s List.mem_cons_self).line
    rw [List.pairwise_cons] at hlines
    have hrest := ih true s.column (differences (startColumn line column s) sums s).2 hs
      (fun t ht => hfits t (List.mem_cons_of_mem s ht)) hlines.1 hlines.2
    have hnone : (textOf (differences (startColumn line column s) sums s).1).count ';' = 0 := by
      rw [List.count_eq_zero]
      intro hmem
      exact (Vlq.not_separator hmem).2 rfl
    have hgap : (separators line started s).count ';' = s.line - line := by
      unfold separators
      split
      · exact List.count_replicate_self
      · have hzero : s.line - line = 0 := by omega
        rw [hzero]
        split <;> decide
    rw [encodeFrom_cons, List.count_append, List.count_append, hgap, hnone]
    omega

/-- **Written segments read back.**  Reading the text of segments gives them in the order of their
places. -/
theorem decode?_encode {segments : List Segment} (hfits : ∀ s ∈ segments, s.Fits)
    (hlines : segments.Pairwise fun s t => s.line ≤ t.line) :
    decode? (encode segments) = .ok ⟨sortByPlace segments⟩ := by
  have hread : readFrom 0 0 Sums.start (encode segments) = .ok segments :=
    readFrom_encodeFrom (by decide) Sums.fits_start hfits (fun s _ => Nat.zero_le s.line) hlines
  have hlimit : (Text.splitOn ';' (encode segments)).length ≤ lineLimit := by
    have hzero : 0 < lineLimit := by decide
    have hcount := count_encodeFrom_lt false 0 Sums.start hzero hfits
      (fun s _ => Nat.zero_le s.line) hlines
    rw [Text.length_splitOn, encode]
    omega
  rw [readFrom_zero] at hread
  cases hread' : lines? 0 Sums.start (Text.splitOn ';' (encode segments)) with
  | error e => simp [hread', Except.map] at hread
  | ok lines =>
    have hflat : lines.flatten = segments := by simpa [hread', Except.map] using hread
    have hstacked : Stacked 0 lines := stacked_of_lines? (by omega) hread'
    rw [decode?, hread']
    simp only
    rw [hstacked.flatten_map_sortLine, hflat]

/-! ### What was read -/

/-- Every segment that is read fits. -/
lemma fits_of_segment? {line : ℕ} {column : ℤ} {sums : Sums} {text : List Char}
    {r : Segment × ℤ × Sums} (hline : line < lineLimit)
    (h : segment? line column sums text = .ok r) : r.1.Fits := by
  obtain ⟨numbers, -, hadmits, rfl⟩ := segment?_eq_ok_iff.mp h
  have htoNat : ∀ {value : ℤ}, IsPlace value → value.toNat < 2 ^ 32 := by
    intro value hvalue
    unfold IsPlace at hvalue
    omega
  refine ⟨hline, htoNat hadmits.column, ?_, ?_⟩
  · intro origin horigin
    simp only [segmentOf, Option.ite_none_right_eq_some, Option.some.injEq] at horigin
    obtain ⟨hcount, rfl⟩ := horigin
    obtain ⟨hsource, hplace, hcolumn⟩ := hadmits.origin hcount
    exact ⟨htoNat hsource, htoNat hplace, htoNat hcolumn⟩
  · intro name hname
    simp only [segmentOf, Option.ite_none_right_eq_some, Option.some.injEq] at hname
    obtain ⟨hcount, rfl⟩ := hname
    refine ⟨htoNat (hadmits.name hcount), ?_⟩
    have hfour : 4 ≤ numbers.length := by omega
    simp [segmentOf, hfour]

/-- Every decoded segment fits. -/
lemma fits_of_decode? {text : List Char} {m : Mappings} (h : decode? text = .ok m) :
    ∀ s ∈ m.segments, s.Fits := by
  obtain ⟨lines, hlines, hm⟩ := exists_lines_of_decode? h
  have hfits := forall_of_lines? (P := Segment.Fits)
    (fun line hline _ _ _ _ hr => fits_of_segment? hline hr) hlines
  intro s hs
  rw [hm, List.mem_flatten] at hs
  obtain ⟨_, hmem, hs⟩ := hs
  obtain ⟨segments, hsegments, rfl⟩ := List.mem_map.mp hmem
  exact hfits s (List.mem_flatten.mpr ⟨segments, hsegments, mem_sortLine.mp hs⟩)

/-- Segments in the order of their places are in the order of their lines. -/
lemma pairwise_line_of_pairwise_place {segments : List Segment}
    (h : segments.Pairwise fun s t => s.place ≤ t.place) :
    segments.Pairwise fun s t => s.line ≤ t.line := by
  refine h.imp ?_
  intro s t hst
  rw [Segment.place, Segment.place, Prod.Lex.toLex_le_toLex] at hst
  rcases hst with hlt | ⟨heq, -⟩
  · exact hlt.le
  · exact heq.le

/-- **Decoded segments read back.**  Decoded mappings are written in a text that decodes to them. -/
theorem decode?_encode_segments {text : List Char} {m : Mappings}
    (hlimit : (Text.splitOn ';' text).length ≤ lineLimit) (h : decode? text = .ok m) :
    decode? (encode m.segments) = .ok m := by
  have hsorted : m.segments.Pairwise fun s t => s.place ≤ t.place := by
    rw [segments_eq_sortByPlace hlimit h]
    exact pairwise_sortByPlace (written text)
  rw [decode?_encode (fits_of_decode? h) (pairwise_line_of_pairwise_place hsorted),
    sortByPlace_of_pairwise hsorted]

/-! ### Both directions -/

/-- **The round trip.** Segments that stand in the order of their lines are written in a text that
reads back to them, those of each line in the order of their columns and otherwise as they are
given; and whatever mappings a text reads to are written in a text that reads to the same. -/
theorem encode_decode_roundTrip :
    (∀ segments : List Segment, (∀ s ∈ segments, s.Fits) →
      segments.Pairwise (fun s t => s.line ≤ t.line) →
        ∃ m, decode? (encode segments) = .ok m ∧
          m.segments.Pairwise (fun s t => s.line ≤ t.line) ∧
          (∀ line, m.segments.filter (fun s => s.line = line) =
            (segments.filter fun s => s.line = line).mergeSort fun s t => s.column ≤ t.column) ∧
          (segments.Pairwise (fun s t => s.place ≤ t.place) → m.segments = segments)) ∧
      ∀ (text : List Char) (m : Mappings), (Text.splitOn ';' text).length ≤ lineLimit →
        decode? text = .ok m → decode? (encode m.segments) = .ok m := by
  refine ⟨fun segments hfits hlines => ?_, fun text m hlimit h => ?_⟩
  · refine ⟨⟨sortByPlace segments⟩, decode?_encode hfits hlines, ?_, ?_, ?_⟩
    · exact pairwise_line_of_pairwise_place (pairwise_sortByPlace segments)
    · exact filter_line_sortByPlace segments
    · exact sortByPlace_of_pairwise
  · exact decode?_encode_segments hlimit h

/-- Segments of which the first line is out of order and the second one empty. -/
def tangled : List Segment :=
  [⟨0, 10, some ⟨0, 0, 0⟩, some 0⟩, ⟨0, 5, some ⟨0, 0, 1⟩, none⟩,
    ⟨2, 0xFFFFFFFF, some ⟨3, 0xFFFFFFFF, 0⟩, none⟩, ⟨2, 0, none, none⟩]

/-- Written and read, the segments of each line are in order. -/
theorem decode?_encode_tangled :
    ∃ m, decode? (encode tangled) = .ok m ∧
      (∀ line, m.segments.filter (fun s => s.line = line) =
        (tangled.filter fun s => s.line = line).mergeSort fun s t => s.column ≤ t.column) ∧
      decode? (encode m.segments) = .ok m := by
  have hfits : ∀ s ∈ tangled, s.Fits := by
    intro s hs
    simp only [tangled, List.mem_cons, List.not_mem_nil, or_false] at hs
    rcases hs with rfl | rfl | rfl | rfl <;>
      exact ⟨by decide, by decide, by simp, by simp⟩
  have hlines : tangled.Pairwise fun s t => s.line ≤ t.line := by decide
  have hlimit : (Text.splitOn ';' (encode tangled)).length ≤ lineLimit := by
    have hlength : (Text.splitOn ';' (encode tangled)).length = 3 := by cbv
    rw [hlength]
    decide
  obtain ⟨m, hm, -, hline, -⟩ := encode_decode_roundTrip.1 tangled hfits hlines
  exact ⟨m, hm, hline, encode_decode_roundTrip.2 _ m hlimit hm⟩

/-- A line with names, with steps back and with an end that came from no source. -/
example :
    encode
        [⟨0, 0, some ⟨0, 0, 0⟩, none⟩, ⟨0, 9, some ⟨0, 0, 9⟩, some 0⟩,
          ⟨0, 18, some ⟨0, 1, 2⟩, none⟩, ⟨0, 42, some ⟨0, 4, 0⟩, some 0⟩, ⟨0, 56, none, none⟩] =
      "AAAA,SAASA,SACP,wBAGFA,c".toList := by
  cbv

end Mappings

end Retrace
