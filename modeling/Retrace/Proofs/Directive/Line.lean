import Mathlib
import Retrace.Directive
import Retrace.Proofs.Text.Lines

/-!
# What a line gives

A directive stands in a comment behind one of four marks. The value behind the mark goes up to the
end of the line in a line comment, and up to the end of the comment in a block comment.

Two marks do not overlap, and a value has no blank in it while a mark has one. So in front of a
comment any mark may stand, but none stands across its start or in it (`exists_eq_append`). What a
line with a comment at its end gives is decided by the marks in front of it
(`onLine?_comment`): if one of those stands there that are looked for earlier, the comment is taken
for a part of another value, which is refused for the blank in it.
-/

namespace Retrace

namespace Directive

variable {value blanks line before rest mark other : List Char}

/-! ### Values -/

/-- A value: it has no blanks and no quotes. -/
structure IsValue (value : List Char) : Prop where
  ne_nil : value ≠ []
  not_blank : ∀ c ∈ value, Text.isBlank c = false
  not_quote : ∀ c ∈ value, c ∉ ['\x22', '\x27', '\x60']

/-- The characters of a value are those that are not forbidden. -/
lemma isForbidden_eq_false_iff {c : Char} :
    isForbidden c = false ↔ Text.isBlank c = false ∧ c ∉ ['\x22', '\x27', '\x60'] := by
  simp only [isForbidden, Bool.or_eq_false_iff, decide_eq_false_iff_not, List.mem_cons,
    List.not_mem_nil, or_false, not_or, and_assoc]

/-- A value is a text of characters that are not forbidden, and not empty. -/
lemma isValue_iff : IsValue value ↔ value ≠ [] ∧ ∀ c ∈ value, isForbidden c = false := by
  constructor
  · intro h
    exact ⟨h.ne_nil, fun c hc => isForbidden_eq_false_iff.mpr ⟨h.not_blank c hc, h.not_quote c hc⟩⟩
  · rintro ⟨hne, h⟩
    exact ⟨hne, fun c hc => (isForbidden_eq_false_iff.mp (h c hc)).1,
      fun c hc => (isForbidden_eq_false_iff.mp (h c hc)).2⟩

instance : Decidable (IsValue value) :=
  decidable_of_iff (value ≠ [] ∧ (value.all fun c => !isForbidden c) = true) <| by
    rw [isValue_iff]
    simp

/-- A text without its blanks is a value if it is allowed as one. -/
lemma value?_eq_some_iff {text : List Char} :
    value? text = some value ↔ Text.trim text = value ∧ IsValue value := by
  have hvalue? : value? text =
      if (Text.trim text).isEmpty || (Text.trim text).any isForbidden then none
      else some (Text.trim text) := rfl
  have hallowed : ((Text.trim text).isEmpty || (Text.trim text).any isForbidden) = false ↔
      IsValue (Text.trim text) := by
    rw [isValue_iff, Bool.or_eq_false_iff]
    simp
  rw [hvalue?]
  constructor
  · intro h
    split at h
    · cases h
    · next hnot =>
      obtain rfl := Option.some.inj h
      exact ⟨rfl, hallowed.mp (Bool.not_eq_true _ ▸ hnot)⟩
  · rintro ⟨rfl, hvalue⟩
    rw [hallowed.mpr hvalue]
    rfl

/-- A value with blanks after it. -/
lemma value?_append (hvalue : IsValue value) (hblanks : ∀ c ∈ blanks, Text.isBlank c) :
    value? (value ++ blanks) = some value := by
  refine value?_eq_some_iff.mpr ⟨?_, hvalue⟩
  obtain ⟨c, tail, rfl⟩ := List.exists_cons_of_ne_nil hvalue.ne_nil
  have hstart : Text.trimStart (c :: tail ++ blanks) = c :: tail ++ blanks := by
    rw [Text.trimStart, List.cons_append, List.dropWhile_cons, hvalue.not_blank c List.mem_cons_self]
    simp
  rw [Text.trim, hstart, Text.trimEnd_append hblanks]
  exact Text.trimEnd_append_of_not_blank hvalue.ne_nil hvalue.not_blank []

/-- A text with a blank between other characters is no value. -/
lemma value?_eq_none {a b c : Char} (ha : Text.isBlank a = false) (hb : Text.isBlank b)
    (hc : Text.isBlank c = false) (front middle back : List Char) :
    value? (front ++ a :: b :: (middle ++ c :: back)) = none := by
  rw [Option.eq_none_iff_forall_ne_some]
  intro value h
  obtain ⟨htrim, hvalue⟩ := value?_eq_some_iff.mp h
  obtain ⟨kept, hstart⟩ :=
    Text.exists_trimStart_eq_append ha front (b :: (middle ++ c :: back))
  have hsplit : kept ++ a :: b :: (middle ++ c :: back) =
      (kept ++ a :: b :: middle) ++ c :: back := by simp
  obtain ⟨kept', hend⟩ := Text.exists_trimEnd_eq_append hc (kept ++ a :: b :: middle) back
  rw [Text.trim, hstart, hsplit, hend] at htrim
  have hmem : b ∈ value := by
    rw [← htrim]
    simp
  rw [hvalue.not_blank b hmem] at hb
  cases hb

/-! ### Marks -/

/-- The marks of directives, in the order in which they are looked for. -/
def marks : List (List Char) := lineMarks ++ blockMarks

/-- The marks that are looked for before another one. -/
def marksBefore (mark : List Char) : List (List Char) :=
  marks.takeWhile (· ≠ mark)

/-- What ends the comment that a mark starts. -/
def closing (mark : List Char) : List Char :=
  if mark ∈ lineMarks then [] else ' ' :: blockEnd

/-- The comment that gives a value behind a mark. -/
def comment (mark value : List Char) : List Char :=
  mark ++ (value ++ closing mark)

/-- A mark is a sign of three characters, a blank and the key. -/
lemma exists_eq_of_mem_marks (h : mark ∈ marks) :
    ∃ a b c, mark = a :: b :: c :: ' ' :: key ∧ Text.isBlank c = false := by
  simp only [marks, lineMarks, blockMarks, List.cons_append, List.nil_append, List.mem_cons,
    List.not_mem_nil, or_false] at h
  rcases h with rfl | rfl | rfl | rfl
  all_goals exact ⟨_, _, _, rfl, by decide⟩

/-- The rest of a mark does not start another one. -/
lemma not_prefix_drop (h : mark ∈ marks) (hother : other ∈ marks) {n : ℕ} (hn : 0 < n)
    (hlt : n < other.length) : ¬ other.drop n <+: mark := by
  have hlength : other.length = 21 := by
    obtain ⟨a, b, c, rfl, -⟩ := exists_eq_of_mem_marks hother
    rfl
  have hall : ∀ mark ∈ marks, ∀ other ∈ marks, ∀ n < 21, 0 < n → ¬ other.drop n <+: mark := by
    decide +kernel
  exact hall mark h other hother n (hlength ▸ hlt) hn

/-- Neither a value nor the end of a comment has a blank with the key after it. -/
lemma not_infix_rest (mark : List Char) (hvalue : IsValue value) :
    ¬ ' ' :: key <:+: key ++ (value ++ closing mark) := by
  have hkey : ' ' ∉ key := by decide
  have hnot : ' ' ∉ key ++ value := by
    rw [List.mem_append]
    rintro (hmem | hmem)
    · exact hkey hmem
    · exact absurd (hvalue.not_blank ' ' hmem) (by decide)
  rw [← List.append_assoc]
  generalize key ++ value = front at hnot
  induction front with
  | nil =>
    intro hinside
    have hlength := hinside.length_le
    have hclosing : (closing mark).length ≤ 3 := by
      unfold closing
      split <;> decide
    have hlong : (' ' :: key).length = 18 := by decide
    rw [List.nil_append] at hlength
    omega
  | cons c front ih =>
    rw [List.cons_append, List.infix_cons_iff, List.cons_prefix_cons]
    rintro (⟨rfl, -⟩ | hinside)
    · exact hnot List.mem_cons_self
    · exact ih (fun hmem => hnot (List.mem_cons_of_mem c hmem)) hinside

/-- A mark does not stand in the comment behind another one. -/
lemma not_infix_tail (h : mark ∈ marks) (hother : other ∈ marks) (hvalue : IsValue value) :
    ¬ other <:+: (comment mark value).tail := by
  obtain ⟨a, b, c, hmark, -⟩ := exists_eq_of_mem_marks h
  obtain ⟨a', b', c', hother', -⟩ := exists_eq_of_mem_marks hother
  have hnot := not_infix_rest mark hvalue
  rintro ⟨front, back, heq⟩
  -- the two characters before the blank of the mark, and the blank, are shorter than a sign
  have htail : (comment mark value).tail = b :: c :: ' ' :: (key ++ (value ++ closing mark)) := by
    rw [comment, hmark]
    rfl
  have hdrop : key ++ (value ++ closing mark) = (front ++ other ++ back).drop 3 := by
    rw [heq, htail]
    rfl
  refine hnot ?_
  rw [hdrop, hother']
  have hlist : front ++ a' :: b' :: c' :: ' ' :: key ++ back =
      (front ++ [a', b', c']) ++ (' ' :: key ++ back) := by simp
  rw [hlist, List.drop_append_of_le_length (by simp)]
  exact ⟨(front ++ [a', b', c']).drop 3, back, by rw [List.append_assoc]⟩

/-- Another mark on a line with a comment at its end stands in front of the comment. -/
lemma exists_eq_append (h : mark ∈ marks) (hother : other ∈ marks) (hne : other ≠ mark)
    (hvalue : IsValue value) {front back p : List Char}
    (heq : front ++ (other ++ back) = p ++ comment mark value) :
    ∃ between, p = front ++ (other ++ between) ∧ back = between ++ comment mark value := by
  have hlength : mark.length = other.length := by
    obtain ⟨a, b, c, rfl, -⟩ := exists_eq_of_mem_marks h
    obtain ⟨a', b', c', rfl, -⟩ := exists_eq_of_mem_marks hother
    rfl
  have hsame : ∀ {tail : List Char}, comment mark value = other ++ tail → False := fun htail =>
    hne (List.append_inj_left htail hlength).symm
  rw [← List.append_assoc, List.append_eq_append_iff] at heq
  rcases heq with ⟨between, hp, hback⟩ | ⟨across, hfront, hcomment⟩
  · exact ⟨between, by rw [hp, List.append_assoc], hback⟩
  rw [List.append_eq_append_iff] at hfront
  rcases hfront with ⟨inside, hp, hacross⟩ | ⟨start, -, hacross⟩
  · -- the other mark starts in front of the comment
    by_cases hinside : inside = []
    · rw [hinside, List.nil_append] at hacross
      exact absurd (hacross ▸ hcomment) hsame
    by_cases hlt : inside.length < other.length
    · have hfront : across <+: mark := by
        refine List.prefix_of_prefix_length_le ⟨back, hcomment.symm⟩
          ⟨value ++ closing mark, rfl⟩ ?_
        rw [hlength, hacross, List.length_append]
        omega
      have hdrop : other.drop inside.length = across := by rw [hacross, List.drop_left]
      exact absurd (hdrop ▸ hfront)
        (not_prefix_drop h hother (List.length_pos_iff.mpr hinside) hlt)
    · have hnil : across = [] := by
        have htotal := congrArg List.length hacross
        rw [List.length_append] at htotal
        exact List.length_eq_zero_iff.mp (by omega)
      rw [hnil, List.append_nil] at hacross
      refine ⟨[], by rw [hp, hacross, List.append_nil], ?_⟩
      rw [hcomment, hnil, List.nil_append, List.nil_append]
  · -- the other mark starts in the comment
    cases start with
    | nil =>
      rw [List.nil_append] at hacross
      exact absurd (hacross ▸ hcomment) hsame
    | cons c start =>
      refine absurd ⟨start, back, ?_⟩ (not_infix_tail h hother hvalue)
      rw [hcomment, hacross]
      rfl

/-! ### Lines -/

/-- The mark that decides what a line gives, and the text after the last of its kind. -/
def deciding? (line : List Char) : Option (List Char × List Char) :=
  marks.findSome? fun mark => (Text.afterLast? mark (Text.trimEnd line)).map fun rest => (mark, rest)

/-- The value in the text behind a mark. -/
def valueBehind? (mark rest : List Char) : Option (List Char) :=
  if mark ∈ lineMarks then value? rest else blockValue? rest

/-- A line gives the value behind the mark that decides. -/
lemma onLine?_eq (line : List Char) :
    onLine? line = (deciding? line).bind fun p => valueBehind? p.1 p.2 := by
  have hline : ∀ mark ∈ lineMarks, ∀ rest, valueBehind? mark rest = value? rest :=
    fun mark hmark rest => if_pos hmark
  have hblock : ∀ mark ∈ blockMarks, ∀ rest, valueBehind? mark rest = blockValue? rest := by
    have hnot : ∀ mark ∈ blockMarks, mark ∉ lineMarks := by decide
    exact fun mark hmark rest => if_neg (hnot mark hmark)
  unfold onLine? deciding?
  rw [marks, List.findSome?_append]
  simp only [lineMarks, blockMarks, List.mem_cons, List.not_mem_nil, or_false, forall_eq_or_imp,
    forall_eq] at hline hblock ⊢
  simp only [List.findSome?_cons, List.findSome?_nil]
  generalize Text.trimEnd line = text
  cases Text.afterLast? ("//# ".toList ++ key) text with
  | some rest => exact (hline.1 rest).symm
  | none =>
    cases Text.afterLast? ("//@ ".toList ++ key) text with
    | some rest => exact (hline.2 rest).symm
    | none =>
      cases Text.afterLast? ("/*# ".toList ++ key) text with
      | some rest => exact (hblock.1 rest).symm
      | none =>
        cases Text.afterLast? ("/*@ ".toList ++ key) text with
        | some rest => exact (hblock.2 rest).symm
        | none => rfl

/-- The mark that decides stands on the line. -/
lemma exists_of_deciding? (h : deciding? line = some (mark, rest)) :
    mark ∈ marks ∧ ∃ front, Text.trimEnd line = front ++ (mark ++ rest) := by
  obtain ⟨found, hfound, hmap⟩ := List.exists_of_findSome?_eq_some h
  obtain ⟨rest', hafter, heq⟩ := Option.map_eq_some_iff.mp hmap
  obtain ⟨rfl, rfl⟩ := Prod.mk.inj heq
  exact ⟨hfound, Text.exists_eq_append_of_afterLast? hafter⟩

/-- The first of the marks on a line decides. -/
lemma deciding?_eq_some (h : mark ∈ marks)
    (hbefore : ∀ other ∈ marksBefore mark, ¬ other <:+: Text.trimEnd line)
    (hafter : Text.afterLast? mark (Text.trimEnd line) = some rest) :
    deciding? line = some (mark, rest) := by
  have hmarks : ∃ later, marks = marksBefore mark ++ mark :: later := by
    have hdrop : marks.dropWhile (· ≠ mark) ≠ [] := by
      rw [ne_eq, List.dropWhile_eq_nil_iff]
      exact fun hall => absurd (hall mark h) (by simp)
    obtain ⟨first, later, hcons⟩ := List.exists_cons_of_ne_nil hdrop
    have hfirst := List.head?_dropWhile_not (fun other => decide (other ≠ mark)) marks
    rw [hcons, List.head?_cons] at hfirst
    have heq : first = mark := by simpa using hfirst
    exact ⟨later, by rw [marksBefore, ← heq, ← hcons, heq, List.takeWhile_append_dropWhile]⟩
  obtain ⟨later, hmarks⟩ := hmarks
  have hnone : (marksBefore mark).findSome? (fun other =>
      (Text.afterLast? other (Text.trimEnd line)).map fun rest => (other, rest)) = none := by
    rw [List.findSome?_eq_none_iff]
    intro other hother
    rw [Text.afterLast?_eq_none (hbefore other hother)]
    rfl
  rw [deciding?, hmarks, List.findSome?_append, hnone, Option.none_or, List.findSome?_cons, hafter]
  rfl

/-- If one of the marks before another one is on a line, one of these decides. -/
lemma exists_deciding?_eq_some (hother : other ∈ marksBefore mark)
    (hfound : ∃ rest, Text.afterLast? other (Text.trimEnd line) = some rest) :
    ∃ found rest, found ∈ marksBefore mark ∧
      Text.afterLast? found (Text.trimEnd line) = some rest ∧
      deciding? line = some (found, rest) := by
  obtain ⟨rest, hrest⟩ := hfound
  have hsome : ((marksBefore mark).findSome? fun mark =>
      (Text.afterLast? mark (Text.trimEnd line)).map fun rest => (mark, rest)).isSome := by
    rw [List.findSome?_isSome_iff]
    exact ⟨other, hother, by rw [hrest]; rfl⟩
  obtain ⟨p, hp⟩ := Option.isSome_iff_exists.mp hsome
  obtain ⟨found, hmem, hmap⟩ := List.exists_of_findSome?_eq_some hp
  obtain ⟨rest, hafter, rfl⟩ := Option.map_eq_some_iff.mp hmap
  refine ⟨found, rest, hmem, hafter, ?_⟩
  have hmarks : marks = marksBefore mark ++ marks.dropWhile (· ≠ mark) :=
    (List.takeWhile_append_dropWhile).symm
  rw [deciding?, hmarks, List.findSome?_append, hp, Option.some_or]

/-- On a line without a mark nothing decides. -/
lemma deciding?_eq_none (h : ∀ mark ∈ marks, ¬ mark <:+: Text.trimEnd line) :
    deciding? line = none := by
  rw [deciding?, List.findSome?_eq_none_iff]
  intro mark hmark
  rw [Text.afterLast?_eq_none (h mark hmark)]
  rfl

/-- A line without the key gives nothing. -/
lemma onLine?_of_not_key (h : ¬ key <:+: line) : onLine? line = none := by
  rw [onLine?_eq, deciding?_eq_none]
  · rfl
  · intro mark hmark hinside
    obtain ⟨a, b, c, rfl, -⟩ := exists_eq_of_mem_marks hmark
    obtain ⟨blanks, hline, -⟩ := Text.exists_trimEnd_append line
    have hkey : key <:+: a :: b :: c :: ' ' :: key := ⟨[a, b, c, ' '], [], by simp⟩
    refine h ((hkey.trans hinside).trans ⟨[], blanks, ?_⟩)
    rw [List.nil_append, ← hline]

/-- A blank line gives no value. -/
lemma onLine?_of_blank (h : ∀ c ∈ line, Text.isBlank c) : onLine? line = none := by
  refine onLine?_of_not_key fun hinside => ?_
  have hmem : 's' ∈ line := hinside.mem (by decide)
  exact absurd (h 's' hmem) (by decide)

/-- The end of a line does not matter for what the line gives. -/
lemma onLine?_dropLineEnd (piece : List Char) :
    onLine? (Text.dropLineEnd piece) = onLine? piece := by
  unfold onLine?
  rw [Text.trimEnd_dropLineEnd]

/-- The end of a block comment is where its value ends. -/
lemma blockValue?_comment (hvalue : IsValue value) (hend : ¬ blockEnd <:+: value) :
    blockValue? (value ++ ' ' :: blockEnd) = some value := by
  have hfirst : ¬ blockEnd <:+: value ++ [' '] ++ blockEnd.dropLast := by
    rw [← List.append_cons]
    intro hinside
    rcases Text.infix_of_infix_append_cons (by decide) hinside with hvalue | hstar
    · exact hend hvalue
    · exact absurd hstar.length_le (by decide)
  have hsplit : Text.splitFirst? blockEnd (value ++ ' ' :: blockEnd) = some (value ++ [' '], []) := by
    have happend := Text.splitFirst?_of_first (by decide) hfirst []
    rwa [List.append_nil, List.append_assoc] at happend
  have hblank : ∀ c ∈ [' '], Text.isBlank c := List.forall_mem_singleton.mpr (by decide)
  rw [blockValue?, hsplit]
  exact value?_append hvalue hblank

/-- Behind its own mark a comment has its value. -/
lemma valueBehind?_comment (hvalue : IsValue value)
    (hend : mark ∉ lineMarks → ¬ blockEnd <:+: value) :
    valueBehind? mark (value ++ closing mark) = some value := by
  unfold valueBehind? closing
  split
  · exact value?_append hvalue (by simp)
  · next hblock => exact blockValue?_comment hvalue (hend hblock)

/-- A comment has no value behind another mark in front of it. -/
lemma valueBehind?_decoy (hmark : mark ∈ marks) (hother : other ∈ marksBefore mark)
    (between value : List Char) :
    valueBehind? other (between ++ comment mark value) = none := by
  obtain ⟨a, b, c, heq, hc⟩ := exists_eq_of_mem_marks hmark
  obtain ⟨first, tail, hkey, hfirst⟩ : ∃ first tail, key = first :: tail ∧
      Text.isBlank first = false := ⟨_, _, rfl, by decide⟩
  -- the blank of the mark stands between the sign and the key
  have hnone : ∀ back, value? (between ++ (mark ++ back)) = none := by
    intro back
    have hblank : between ++ (mark ++ back) =
        (between ++ [a, b]) ++ c :: ' ' :: ([] ++ first :: (tail ++ back)) := by
      rw [heq, hkey]
      simp
    rw [hblank]
    exact value?_eq_none hc (by decide) hfirst _ _ _
  unfold valueBehind?
  split
  · exact hnone (value ++ closing mark)
  · next hnot =>
    -- only the first mark of block comments is looked for before another one
    have hblock : mark ∉ lineMarks := by
      have hall : ∀ mark ∈ lineMarks, ∀ other ∈ marksBefore mark, other ∈ lineMarks := by decide
      exact fun hmem => hnot (hall mark hmem other hother)
    have hcomment : between ++ comment mark value =
        (between ++ (mark ++ (value ++ [' ']))) ++ blockEnd := by
      rw [comment, closing, if_neg hblock]
      simp
    rw [blockValue?]
    split
    · rfl
    · next front trailing hsplit =>
      split
      · next hempty =>
        have htext := Text.eq_of_splitFirst?_eq_some hsplit
        have htrim : Text.trimEnd (between ++ comment mark value) =
            between ++ comment mark value := by
          rw [hcomment]
          exact Text.trimEnd_append_of_not_blank (by decide)
            (by simp [blockEnd, Text.isBlank, Text.blankRanges]) _
        have hblank := Text.isBlank_of_trim_eq_nil (List.isEmpty_iff.mp hempty)
        have hnil : trailing = [] := by
          rw [htext, ← List.append_assoc front] at htrim
          exact Text.eq_nil_of_trimEnd_eq_append htrim hblank
        rw [hnil, List.append_nil, hcomment] at htext
        rw [← List.append_cancel_right htext]
        exact hnone (value ++ [' '])
      · rfl

/-- A line with a comment at its end gives the value of the comment, unless a mark stands in front
of the comment that is looked for earlier; then it gives nothing. -/
lemma onLine?_comment (hmark : mark ∈ marks) (hvalue : IsValue value)
    (hend : mark ∉ lineMarks → ¬ blockEnd <:+: value) {p : List Char}
    (hline : Text.trimEnd line = p ++ comment mark value) :
    ((∀ other ∈ marksBefore mark, ¬ other <:+: p) → onLine? line = some value) ∧
      ((∃ other ∈ marksBefore mark, other <:+: p) → onLine? line = none) := by
  have hmem : ∀ other ∈ marksBefore mark, other ∈ marks ∧ other ≠ mark := fun other hother =>
    ⟨(List.takeWhile_prefix _).mem hother, by simpa using List.mem_takeWhile_imp hother⟩
  constructor
  · intro hfirst
    have hdeciding : deciding? line = some (mark, value ++ closing mark) := by
      refine deciding?_eq_some hmark (fun other hother hinside => ?_) ?_
      · obtain ⟨front, back, heq⟩ := hinside
        rw [hline, List.append_assoc] at heq
        obtain ⟨between, hp, -⟩ :=
          exists_eq_append hmark (hmem other hother).1 (hmem other hother).2 hvalue heq
        exact hfirst other hother ⟨front, between, by rw [hp, List.append_assoc]⟩
      · rw [hline]
        exact Text.afterLast?_of_last (not_infix_tail hmark hmark hvalue) p
    rw [onLine?_eq, hdeciding]
    exact valueBehind?_comment hvalue hend
  · rintro ⟨other, hother, hinside⟩
    have hfound : ∃ rest, Text.afterLast? other (Text.trimEnd line) = some rest := by
      rw [hline]
      exact Text.exists_afterLast?_eq_some (hinside.trans ⟨[], comment mark value, rfl⟩)
    obtain ⟨found, rest, hmem', hafter, hdeciding⟩ := exists_deciding?_eq_some hother hfound
    obtain ⟨front, hfront⟩ := Text.exists_eq_append_of_afterLast? hafter
    obtain ⟨between, -, hrest⟩ := exists_eq_append hmark (hmem found hmem').1 (hmem found hmem').2
      hvalue (hfront.symm.trans hline)
    rw [onLine?_eq, hdeciding, Option.bind_some, hrest]
    exact valueBehind?_decoy hmark hmem' between value

/-! ### Files -/

/-- What a file gives is what the last of its pieces gives that gives anything. -/
lemma find?_eq_findSome? (source : List Char) :
    find? source = (Text.pieces source).reverse.findSome? onLine? := by
  rw [find?, Text.lines, ← List.map_reverse, List.findSome?_map]
  exact congrArg (List.findSome? · _) (funext onLine?_dropLineEnd)

end Directive

end Retrace
