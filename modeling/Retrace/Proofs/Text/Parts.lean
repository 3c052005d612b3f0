import Mathlib
import Retrace.Text.Search

/-!
# Parts of a text

Splitting a text at a separator and joining the parts again are inverse to each other
(`joinWith_splitOn`, `splitOn_joinWith`): the parts are the texts without separators. A list of
values that is written part by part is read back part by part (`mapM_written`).
-/

namespace Retrace

namespace Text

variable {separator : Char} {text part : List Char} {parts : List (List Char)}

/-- The first of several parts, with the mark behind it. -/
lemma joinWith_cons (mark part : List Char) (h : parts ≠ []) :
    joinWith mark (part :: parts) = part ++ mark ++ joinWith mark parts := by
  cases parts with
  | nil => exact absurd rfl h
  | cons next parts => rfl

/-- The parts of a text, joined again, are the text. -/
theorem joinWith_splitOn (separator : Char) (text : List Char) :
    joinWith [separator] (splitOn separator text) = text := by
  induction text with
  | nil => rfl
  | cons c text ih =>
    rw [splitOn]
    split
    · next hc =>
      rw [joinWith_cons _ _ (splitOn_ne_nil separator text), ih, hc]
      rfl
    · split
      · next hnil => exact absurd hnil (splitOn_ne_nil separator text)
      · next part parts hparts =>
        rw [hparts] at ih
        rw [← ih]
        cases parts <;> rfl

/-- The parts of a text have no separator. -/
lemma separator_not_mem_of_mem_splitOn (h : part ∈ splitOn separator text) : separator ∉ part := by
  induction text generalizing part with
  | nil =>
    rw [splitOn, List.mem_singleton] at h
    simp [h]
  | cons c text ih =>
    rw [splitOn] at h
    split at h
    · rcases List.mem_cons.mp h with rfl | h
      · exact List.not_mem_nil
      · exact ih h
    · next hc =>
      split at h
      · next hnil => exact absurd hnil (splitOn_ne_nil separator text)
      · next first parts hparts =>
        rw [hparts] at ih
        rcases List.mem_cons.mp h with rfl | h
        · intro hmem
          rcases List.mem_cons.mp hmem with heq | hmem
          · exact hc heq.symm
          · exact ih List.mem_cons_self hmem
        · exact ih (List.mem_cons_of_mem first h)

/-- A text without a separator is its only part. -/
lemma splitOn_eq_singleton (h : separator ∉ text) : splitOn separator text = [text] := by
  have hne : ∀ c ∈ text, c ≠ separator := fun c hc heq => h (heq ▸ hc)
  have hempty : splitOn separator [] = [[]] := rfl
  have happend := splitOn_append hne hempty
  rwa [List.append_nil] at happend

/-- Texts without separators are the parts of the text that joins them. -/
theorem splitOn_joinWith (hne : parts ≠ []) (h : ∀ part ∈ parts, separator ∉ part) :
    splitOn separator (joinWith [separator] parts) = parts := by
  induction parts with
  | nil => exact absurd rfl hne
  | cons part parts ih =>
    obtain ⟨hpart, hparts⟩ := List.forall_mem_cons.mp h
    have hsplit : ∀ c ∈ part, c ≠ separator := fun c hc heq => hpart (heq ▸ hc)
    by_cases hnil : parts = []
    · rw [hnil]
      exact splitOn_eq_singleton hpart
    · rw [joinWith_cons _ _ hnil, List.append_assoc, List.singleton_append,
        splitOn_append hsplit (splitOn_cons_self separator _), ih hnil hparts, List.append_nil]

/-- The characters of parts that are joined. -/
lemma mem_joinWith {mark : List Char} {c : Char} (h : c ∈ joinWith mark parts) :
    c ∈ mark ∨ ∃ part ∈ parts, c ∈ part := by
  induction parts with
  | nil => cases h
  | cons part parts ih =>
    by_cases hnil : parts = []
    · rw [hnil] at h
      exact .inr ⟨part, List.mem_cons_self, h⟩
    · rw [joinWith_cons _ _ hnil, List.mem_append, List.mem_append] at h
      rcases h with (h | h) | h
      · exact .inr ⟨part, List.mem_cons_self, h⟩
      · exact .inl h
      · rcases ih h with h | ⟨other, hother, h⟩
        · exact .inl h
        · exact .inr ⟨other, List.mem_cons_of_mem part hother, h⟩

/-- The characters of a part are characters of the text. -/
lemma mem_of_mem_splitOn {c : Char} (hpart : part ∈ splitOn separator text) (hc : c ∈ part) :
    c ∈ text := by
  rw [← joinWith_splitOn separator text]
  generalize splitOn separator text = parts at hpart
  induction parts with
  | nil => cases hpart
  | cons first parts ih =>
    by_cases hnil : parts = []
    · rw [hnil] at hpart ⊢
      rwa [← List.mem_singleton.mp hpart]
    · rw [joinWith_cons _ _ hnil, List.mem_append]
      rcases List.mem_cons.mp hpart with rfl | hpart
      · exact .inl (List.mem_append_left _ hc)
      · exact .inr (ih hpart)

/-- Parts at the front are joined to the front of the text. -/
lemma prefix_joinWith {mark : List Char} {front : List (List Char)} (h : front <+: parts) :
    joinWith mark front <+: joinWith mark parts := by
  induction front generalizing parts with
  | nil => exact List.nil_prefix
  | cons part front ih =>
    obtain ⟨rest, rfl⟩ := h
    by_cases hfront : front = []
    · rw [hfront]
      by_cases hrest : rest = []
      · rw [hrest]
        exact List.prefix_rfl
      · rw [List.cons_append, List.nil_append, joinWith_cons _ _ hrest, List.append_assoc]
        exact List.prefix_append _ _
    · rw [List.cons_append, joinWith_cons _ _ hfront, joinWith_cons _ _ (by simp [hfront])]
      exact (List.prefix_append_right_inj _).mpr (ih (List.prefix_append front rest))

/-! ### Parts read one by one -/

variable {α : Type} {read : List Char → Option α} {values : List α}

/-- Values that are read back one by one are read back as a list. -/
lemma mapM_written {write : α → List Char} (h : ∀ value ∈ values, read (write value) = some value) :
    (values.map write).mapM read = some values := by
  induction values with
  | nil => rfl
  | cons value values ih =>
    obtain ⟨hvalue, hvalues⟩ := List.forall_mem_cons.mp h
    rw [List.map_cons, List.mapM_cons, hvalue, ih hvalues]
    rfl

/-- Each of the values that are read comes from a part. -/
lemma exists_of_mem_mapM {value : α} (h : parts.mapM read = some values) (hvalue : value ∈ values) :
    ∃ part ∈ parts, read part = some value := by
  induction parts generalizing values with
  | nil =>
    cases h
    cases hvalue
  | cons part parts ih =>
    rw [List.mapM_cons, Option.bind_eq_bind, Option.bind_eq_some_iff] at h
    obtain ⟨first, hfirst, h⟩ := h
    rw [Option.bind_eq_bind, Option.bind_eq_some_iff] at h
    obtain ⟨others, hothers, h⟩ := h
    obtain rfl := Option.some.inj h
    rcases List.mem_cons.mp hvalue with rfl | hvalue
    · exact ⟨part, List.mem_cons_self, hfirst⟩
    · obtain ⟨origin, horigin, hread⟩ := ih hothers hvalue
      exact ⟨origin, List.mem_cons_of_mem part horigin, hread⟩

end Text

end Retrace
