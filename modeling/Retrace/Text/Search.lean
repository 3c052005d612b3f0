/-!
# Finding and splitting

Where a short text stands in a longer one, and the parts of a text between separators.
-/

namespace Retrace

namespace Text

/-- What follows `mark` when the text starts with it. -/
def after? : List Char → List Char → Option (List Char)
  | [], text => some text
  | _ :: _, [] => none
  | m :: mark, c :: text => if m = c then after? mark text else none

/-- The text before and the text after the first `mark`. -/
def splitFirst? (mark : List Char) : List Char → Option (List Char × List Char)
  | [] => (after? mark []).map fun rest => ([], rest)
  | c :: text =>
    match after? mark (c :: text) with
    | some rest => some ([], rest)
    | none => (splitFirst? mark text).map fun p => (c :: p.1, p.2)

/-- The text after the last `mark`. -/
def afterLast? (mark : List Char) : List Char → Option (List Char)
  | [] => after? mark []
  | c :: text =>
    match afterLast? mark text with
    | some rest => some rest
    | none => after? mark (c :: text)

/-- The parts of a text between separators, at least one. -/
def splitOn (separator : Char) : List Char → List (List Char)
  | [] => [[]]
  | c :: text =>
    if c = separator then [] :: splitOn separator text
    else
      match splitOn separator text with
      | [] => [[c]]
      | part :: parts => (c :: part) :: parts

/-- Texts joined with a separator between them. -/
def joinWith (separator : List Char) : List (List Char) → List Char
  | [] => []
  | [part] => part
  | part :: parts => part ++ separator ++ joinWith separator parts

/-- Whether two texts agree up to the case of ASCII letters. -/
def sameIgnoringCase (s t : List Char) : Bool :=
  s.map Char.toLower == t.map Char.toLower

theorem splitOn_ne_nil (separator : Char) (text : List Char) : splitOn separator text ≠ [] := by
  cases text with
  | nil => simp [splitOn]
  | cons c rest =>
    rw [splitOn]
    split
    · simp
    · split <;> simp

@[simp] theorem splitOn_cons_self (separator : Char) (text : List Char) :
    splitOn separator (separator :: text) = [] :: splitOn separator text := by
  simp [splitOn]

/-- A text without separators stands in front of the first part. -/
theorem splitOn_append {separator : Char} {text rest first : List Char}
    {others : List (List Char)} (htext : ∀ c ∈ text, c ≠ separator)
    (hrest : splitOn separator rest = first :: others) :
    splitOn separator (text ++ rest) = (text ++ first) :: others := by
  induction text with
  | nil => exact hrest
  | cons c text ih =>
    have hc : c ≠ separator := htext c List.mem_cons_self
    have hparts := ih fun d hd => htext d (List.mem_cons_of_mem c hd)
    rw [List.cons_append, splitOn, if_neg hc, hparts]
    rfl

/-- A text has one part more than separators. -/
theorem length_splitOn (separator : Char) (text : List Char) :
    (splitOn separator text).length = text.count separator + 1 := by
  induction text with
  | nil => rfl
  | cons c text ih =>
    rw [splitOn]
    split
    · next h => rw [List.length_cons, ih, h, List.count_cons_self]
    · next h =>
      rw [List.count_cons_of_ne h, ← ih]
      split
      · next hnil => exact absurd hnil (splitOn_ne_nil separator text)
      · next first others hparts => rw [List.length_cons, hparts, List.length_cons]

@[simp] theorem after?_append (mark text : List Char) : after? mark (mark ++ text) = some text := by
  induction mark with
  | nil => rfl
  | cons m mark ih => simp [after?, ih]

theorem after?_eq_some_iff {mark text rest : List Char} :
    after? mark text = some rest ↔ text = mark ++ rest := by
  constructor
  · intro h
    induction mark generalizing text with
    | nil => simpa [after?] using h
    | cons m mark ih =>
      cases text with
      | nil => simp [after?] at h
      | cons c text =>
        simp only [after?] at h
        split at h
        · next hc => rw [hc, ih h, List.cons_append]
        · simp at h
  · rintro rfl
    exact after?_append mark rest

/-- A text that is split at a mark is the text before it, the mark and the text after it. -/
theorem eq_of_splitFirst?_eq_some {mark text before rest : List Char}
    (h : splitFirst? mark text = some (before, rest)) : text = before ++ (mark ++ rest) := by
  induction text generalizing before with
  | nil =>
    rw [splitFirst?] at h
    obtain ⟨_, hafter, heq⟩ := Option.map_eq_some_iff.mp h
    obtain ⟨rfl, rfl⟩ := Prod.mk.inj heq
    rw [List.nil_append]
    exact after?_eq_some_iff.mp hafter
  | cons c text ih =>
    rw [splitFirst?] at h
    split at h
    · next _ hafter =>
      obtain ⟨rfl, rfl⟩ := Prod.mk.inj (Option.some.inj h)
      rw [List.nil_append]
      exact after?_eq_some_iff.mp hafter
    · obtain ⟨⟨first, others⟩, hsplit, heq⟩ := Option.map_eq_some_iff.mp h
      obtain ⟨rfl, rfl⟩ := Prod.mk.inj heq
      rw [ih hsplit]
      rfl

/-- A text is split at a mark if the first character of the mark does not stand before it. -/
theorem splitFirst?_append {m : Char} {mark before : List Char} (h : m ∉ before)
    (rest : List Char) :
    splitFirst? (m :: mark) (before ++ (m :: mark ++ rest)) = some (before, rest) := by
  induction before with
  | nil =>
    have hafter := after?_append (m :: mark) rest
    simp only [List.cons_append] at hafter
    simp only [List.nil_append, List.cons_append, splitFirst?, hafter]
  | cons c before ih =>
    have hc : m ≠ c := fun heq => h (heq ▸ List.mem_cons_self)
    have hrest := ih fun hmem => h (List.mem_cons_of_mem c hmem)
    simp only [List.cons_append, splitFirst?, after?, hc, if_false] at hrest ⊢
    rw [hrest]
    rfl

/-- What stands before the first separator, and what after it, is told by the text. -/
theorem append_separator_inj {separator : Char} {first other rest rest' : List Char}
    (hfirst : separator ∉ first) (hother : separator ∉ other) :
    first ++ separator :: rest = other ++ separator :: rest' ↔ first = other ∧ rest = rest' := by
  constructor
  · intro h
    induction first generalizing other with
    | nil =>
      cases other with
      | nil => exact ⟨rfl, (List.cons.inj h).2⟩
      | cons d other => exact absurd ((List.cons.inj h).1 ▸ List.mem_cons_self) hother
    | cons c first ih =>
      cases other with
      | nil => exact absurd ((List.cons.inj h).1 ▸ List.mem_cons_self) hfirst
      | cons d other =>
        obtain ⟨rfl, htail⟩ := List.cons.inj h
        obtain ⟨rfl, hrest⟩ := ih (fun hmem => hfirst (List.mem_cons_of_mem c hmem))
          (fun hmem => hother (List.mem_cons_of_mem c hmem)) htail
        exact ⟨rfl, hrest⟩
  · rintro ⟨rfl, rfl⟩
    rfl

end Text

end Retrace
