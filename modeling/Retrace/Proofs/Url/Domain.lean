import Mathlib
import Retrace.Proofs.Text.Capitals
import Retrace.Proofs.Text.Parts
import Retrace.Proofs.Url.Punycode
import Retrace.Url.Domain

/-!
# Domain names read back

The ASCII form of a domain name is a domain name whose ASCII form is itself (`toAscii?_toAscii?`).
Each of its labels stands for the same letters as the label that it comes from, so that whatever was
checked of the letters holds again (`forms?_ascii`); and it has nothing left that could be folded.
-/

namespace Retrace

namespace Url

namespace Domain

variable {name label ascii : List Char} {f : Form} {forms : List Form} {c : Char}

/-- A character that a name may have in its ASCII form. -/
structure IsPlain (c : Char) : Prop where
  ascii : Punycode.isAscii c = true
  allowed : isForbidden c = false
  lower : c.isUpper = false

instance : DecidablePred IsPlain := fun c =>
  decidable_of_iff (Punycode.isAscii c = true ∧ isForbidden c = false ∧ c.isUpper = false)
    ⟨fun h => ⟨h.1, h.2.1, h.2.2⟩, fun h => ⟨h.ascii, h.allowed, h.lower⟩⟩

/-! ### Folding -/

/-- Folding leaves no capital of ASCII. -/
lemma not_isUpper_of_mem_fold (h : c ∈ fold name) : c.isUpper = false := by
  unfold fold at h
  split at h
  · obtain ⟨d, -, rfl⟩ := List.mem_map.mp h
    exact Char.isUpper_toLower_eq_false d
  · refine Text.not_isUpper_of_mem_compose (fun d hd => ?_) h
    obtain ⟨e, -, hd⟩ := List.mem_flatMap.mp hd
    unfold Label.fold at hd
    split at hd
    · rw [List.mem_singleton.mp hd]
      rfl
    · split at hd
      · cases hd
      · obtain ⟨plain, -, hd⟩ := List.mem_flatMap.mp hd
        exact Text.not_isUpper_of_mem_lowerCase hd

/-- A name of such characters is folded already. -/
lemma fold_eq_self (h : ∀ c ∈ name, IsPlain c) : fold name = name := by
  rw [fold_of_ascii (List.all_eq_true.mpr fun c hc => (h c hc).ascii)]
  refine (List.map_congr_left fun c hc => ?_).trans (List.map_id name)
  exact Char.toLower_eq_of_not_isUpper (by simp [(h c hc).lower])

/-- A name of plain characters has no forbidden one. -/
lemma any_isForbidden_eq_false (h : ∀ c ∈ name, IsPlain c) : name.any isForbidden = false :=
  List.any_eq_false.mpr fun c hc => by simp [(h c hc).allowed]

/-! ### Labels -/

/-- The characters of an ASCII form that do not stand in the label. -/
def IsAdded (c : Char) : Prop :=
  c = '-' ∨ Punycode.IsSymbol c

/-- The mark in front of an escaped label has added characters only. -/
lemma isAdded_of_mem_asciiMark (h : c ∈ Label.asciiMark) : IsAdded c := by
  rcases List.mem_cons.mp h with rfl | h
  · exact .inr ⟨23, by decide, rfl⟩
  · rcases List.mem_cons.mp h with rfl | h
    · exact .inr ⟨13, by decide, rfl⟩
    · left
      rcases List.mem_cons.mp h with rfl | h
      · rfl
      · exact List.mem_singleton.mp h

/-- An added character is plain, and does not divide a name. -/
lemma IsAdded.plain (h : IsAdded c) : IsPlain c ∧ c ≠ '.' := by
  rcases h with rfl | ⟨d, hd, rfl⟩
  · decide
  · have hall : ∀ d < 36, IsPlain (Punycode.symbol d) ∧ Punycode.symbol d ≠ '.' := by decide
    exact hall d hd

/-- An escaped label is ASCII. -/
lemma isAscii_of_mem_encode (h : c ∈ Punycode.encode label) : Punycode.isAscii c = true := by
  rcases Punycode.mem_encode h with ⟨-, hc⟩ | hc
  · exact hc
  · exact (IsAdded.plain hc).1.ascii

/-- The characters of the ASCII form of a label. -/
lemma mem_ascii (h : forms? label = some f) (hc : c ∈ f.ascii) :
    Punycode.isAscii c = true ∧ (c ∈ label ∨ IsAdded c) := by
  unfold forms? at h
  split at h
  · next form hform =>
    split at h
    · split at h
      · next hchecks =>
        obtain rfl := Option.some.inj h
        refine ⟨?_, .inl hc⟩
        rw [Text.after?_eq_some_iff.mp hform] at hc
        rcases List.mem_append.mp hc with hc | hc
        · exact (isAdded_of_mem_asciiMark hc).plain.1.ascii
        · rw [Bool.and_eq_true, decide_eq_true_iff] at hchecks
          rw [← hchecks.2] at hc
          exact isAscii_of_mem_encode hc
      · cases h
    · cases h
  · split at h
    · next hascii =>
      obtain rfl := Option.some.inj h
      exact ⟨List.all_eq_true.mp hascii c hc, .inl hc⟩
    · split at h
      · obtain rfl := Option.some.inj h
        rcases List.mem_append.mp hc with hc | hc
        · have hadded := isAdded_of_mem_asciiMark hc
          exact ⟨hadded.plain.1.ascii, .inr hadded⟩
        · refine ⟨isAscii_of_mem_encode hc, ?_⟩
          rcases Punycode.mem_encode hc with ⟨hc, -⟩ | hc
          · exact .inl hc
          · exact .inr hc
      · cases h

/-- The ASCII form of a label has the same forms as the label. -/
lemma forms?_ascii (h : forms? label = some f) : forms? f.ascii = some f := by
  unfold forms? at h
  split at h
  · next form hform =>
    split at h
    · next letters hletters =>
      split at h
      · next hchecks =>
        obtain rfl := Option.some.inj h
        simp only [forms?, hform, hletters, hchecks, if_true]
      · cases h
    · cases h
  · next hform =>
    split at h
    · next hascii =>
      obtain rfl := Option.some.inj h
      simp only [forms?, hform, hascii, if_true]
    · next hascii =>
      split at h
      · next hchecks =>
        obtain rfl := Option.some.inj h
        rw [Bool.and_eq_true, decide_eq_true_iff] at hchecks
        have hdecode := Punycode.decode?_encode hchecks.1
        have hany : label.any (fun c => !Punycode.isAscii c) = true := by
          rw [Bool.not_eq_true, List.all_eq_false] at hascii
          simpa using hascii
        simp [forms?, Text.after?_append, hdecode, hany, hchecks.2]
      · cases h

/-! ### Names -/

/-- The ASCII form of a name is that of its labels, one after the other. -/
lemma exists_of_toAscii? (h : toAscii? name = some ascii) :
    ∃ forms, (Text.splitOn '.' (fold name)).mapM forms? = some forms ∧ isReadable forms = true ∧
      (∀ c ∈ fold name, isForbidden c = false) ∧
      ascii = Text.joinWith ['.'] (forms.map Form.ascii) := by
  unfold toAscii? at h
  dsimp only at h
  split at h
  · cases h
  · next hforbidden =>
    split at h
    · next forms hforms =>
      split at h
      · next hreadable =>
        obtain rfl := Option.some.inj h
        refine ⟨forms, hforms, hreadable, fun c hc => ?_, rfl⟩
        rw [Bool.not_eq_true, List.any_eq_false] at hforbidden
        simpa using hforbidden c hc
      · cases h
    · cases h

/-- The characters of an ASCII form. -/
lemma isPlain_of_mem_toAscii? (h : toAscii? name = some ascii) (hc : c ∈ ascii) : IsPlain c := by
  obtain ⟨forms, hforms, -, hforbidden, rfl⟩ := exists_of_toAscii? h
  rcases Text.mem_joinWith hc with hc | ⟨part, hpart, hc⟩
  · rw [List.mem_singleton.mp hc]
    decide
  · obtain ⟨f, hf, rfl⟩ := List.mem_map.mp hpart
    obtain ⟨label, hlabel, hform⟩ := Text.exists_of_mem_mapM hforms hf
    obtain ⟨hascii, hmem | hadded⟩ := mem_ascii hform hc
    · have hfold := Text.mem_of_mem_splitOn hlabel hmem
      exact ⟨hascii, hforbidden c hfold, not_isUpper_of_mem_fold hfold⟩
    · exact hadded.plain.1

/-- **Domain names read back.** -/
theorem toAscii?_toAscii? (h : toAscii? name = some ascii) : toAscii? ascii = some ascii := by
  have hplain : ∀ c ∈ ascii, IsPlain c := fun c hc => isPlain_of_mem_toAscii? h hc
  have hfold := fold_eq_self hplain
  have hforbidden := any_isForbidden_eq_false hplain
  obtain ⟨forms, hforms, hreadable, -, rfl⟩ := exists_of_toAscii? h
  have hne : forms.map Form.ascii ≠ [] := by
    intro hnil
    rw [List.map_eq_nil_iff.mp hnil] at hforms
    cases hsplit : Text.splitOn '.' (fold name) with
    | nil => exact Text.splitOn_ne_nil '.' (fold name) hsplit
    | cons first others =>
      rw [hsplit] at hforms
      simp [List.mapM_cons, Option.bind_eq_some_iff] at hforms
  have hparts : ∀ part ∈ forms.map Form.ascii, '.' ∉ part := by
    intro part hpart hmem
    obtain ⟨f, hf, rfl⟩ := List.mem_map.mp hpart
    obtain ⟨label, hlabel, hform⟩ := Text.exists_of_mem_mapM hforms hf
    obtain ⟨-, hlabel' | hadded⟩ := mem_ascii hform hmem
    · exact Text.separator_not_mem_of_mem_splitOn hlabel hlabel'
    · exact hadded.plain.2 rfl
  have hmapM : (forms.map Form.ascii).mapM forms? = some forms := by
    apply Text.mapM_written
    intro f hf
    obtain ⟨label, -, hform⟩ := Text.exists_of_mem_mapM hforms hf
    exact forms?_ascii hform
  unfold toAscii?
  simp only [hfold, hforbidden, Text.splitOn_joinWith hne hparts, hmapM, hreadable, if_true,
    Bool.false_eq_true, if_false]

end Domain

end Url

end Retrace
