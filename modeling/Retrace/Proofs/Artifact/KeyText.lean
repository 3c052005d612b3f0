import Mathlib
import Retrace.Store

/-!
# Keys and their texts

A store keeps objects under the texts of their keys, and the text of a key is its project, its
version and its location with slashes between them. The text of a project has no slash, so the
project of a key is told by its text. But a version may have slashes. Then what one key counts as
the end of its version another may count as the start of its location (`Shifted`), and a store takes
the two for one (`store_serves_shifted`).

This is the only way in which the texts of different keys are the same, and it takes a version with
a slash. Where versions have none, what a store has under a key is what was put in last under this
very key (`text_keeps_apart`).
-/

namespace Retrace

namespace ProjectId

/-- The number of a project is written without slashes. -/
lemma slash_not_mem_text (p : ProjectId) : '/' ∉ p.text.toList := by
  -- digits, and a sign in front of them
  have hdigits : ∀ n : ℕ, '/' ∉ n.repr.toList := by
    intro n hmem
    rw [Nat.toList_repr] at hmem
    have hdigit := Nat.isDigit_of_mem_toDigits (by decide) (by decide) hmem
    exact absurd hdigit (by decide)
  rw [text, Int.toString_eq_repr, Int.repr_eq_if]
  split
  · exact hdigits _
  · rw [String.toList_append, List.mem_append]
    rintro (hsign | hmem)
    · exact absurd hsign (by decide)
    · exact hdigits _ hmem

/-- The number of a project is told by its text. -/
lemma text_injective {p q : ProjectId} (h : p.text = q.text) : p = q := by
  have hnumber : p.number.toInt = q.number.toInt := Int.repr_injective h
  exact congrArg ProjectId.mk (Int64.toInt_inj.mp hnumber)

end ProjectId

namespace ArtifactKey

/-- A version without slashes. -/
def HasPlainVersion (key : ArtifactKey) : Prop :=
  '/' ∉ key.version.toList

instance : DecidablePred HasPlainVersion := fun key =>
  inferInstanceAs (Decidable ('/' ∉ key.version.toList))

/-- The first part of the location of one key is the end of the version of another, and the keys
are the same apart from this. -/
def Shifted (key other : ArtifactKey) : Prop :=
  other.project = key.project ∧
    ∃ part : String, other.version = key.version ++ "/" ++ part ∧
      key.location = part ++ "/" ++ other.location

variable {key other : ArtifactKey}

/-- The characters of the text of a key. -/
lemma toList_text (key : ArtifactKey) :
    key.text.toList =
      key.project.text.toList ++ '/' :: (key.version.toList ++ '/' :: key.location.toList) := by
  simp only [text, String.toList_append, List.append_assoc]
  rfl

/-- What is put together of texts with a slash between them. -/
lemma eq_join_iff {whole first rest : String} :
    whole = first ++ "/" ++ rest ↔ whole.toList = first.toList ++ '/' :: rest.toList := by
  rw [← String.toList_inj, String.toList_append, String.toList_append, List.append_assoc]
  rfl

/-- Keys of one project, by their versions and locations. -/
lemma eq_of_parts (hproject : key.project = other.project)
    (hversion : key.version.toList = other.version.toList)
    (hlocation : key.location.toList = other.location.toList) : key = other := by
  cases key
  cases other
  obtain rfl : _ = _ := hproject
  obtain rfl := String.toList_injective hversion
  obtain rfl := String.toList_injective hlocation
  rfl

/-- A version and a location that go on longer than another version. -/
lemma eq_or_shifted_of_append (hproject : key.project = other.project) {part : List Char}
    (hversion : other.version.toList = key.version.toList ++ part)
    (hlocation : '/' :: key.location.toList = part ++ '/' :: other.location.toList) :
    key = other ∨ key.Shifted other := by
  cases part with
  | nil =>
    rw [List.append_nil] at hversion
    exact .inl (eq_of_parts hproject hversion.symm (List.cons.inj hlocation).2)
  | cons c part =>
    obtain rfl : '/' = c := (List.cons.inj hlocation).1
    have hrest : key.location.toList = part ++ '/' :: other.location.toList :=
      (List.cons.inj hlocation).2
    refine .inr ⟨hproject.symm, String.ofList part, ?_, ?_⟩
    · rw [eq_join_iff, String.toList_ofList, hversion]
    · rw [eq_join_iff, String.toList_ofList, hrest]

/-- Keys that are shifted have the same text. -/
lemma Shifted.text_eq (h : key.Shifted other) : key.text = other.text := by
  obtain ⟨hproject, part, hversion, hlocation⟩ := h
  simp only [text, hproject, hversion, hlocation, String.append_assoc]

/-- Keys with the same text are of one project. -/
lemma project_eq_of_text_eq (h : key.text = other.text) : key.project = other.project := by
  have hchars := congrArg String.toList h
  rw [toList_text, toList_text] at hchars
  obtain ⟨hproject, -⟩ := (Text.append_separator_inj key.project.slash_not_mem_text
    other.project.slash_not_mem_text).mp hchars
  exact ProjectId.text_injective (String.toList_injective hproject)

/-- Keys have the same text exactly when they are the same or one is shifted against the other. -/
lemma text_eq_text_iff :
    key.text = other.text ↔ key = other ∨ key.Shifted other ∨ other.Shifted key := by
  constructor
  · intro h
    have hproject := project_eq_of_text_eq h
    have hchars := congrArg String.toList h
    rw [toList_text, toList_text, hproject] at hchars
    have hrest := (List.cons.inj (List.append_cancel_left hchars)).2
    -- one of the versions ends where the other does or goes on
    rcases List.append_eq_append_iff.mp hrest with ⟨part, hversion, hlocation⟩ |
      ⟨part, hversion, hlocation⟩
    · exact (eq_or_shifted_of_append hproject hversion hlocation).imp_right .inl
    · exact (eq_or_shifted_of_append hproject.symm hversion hlocation).imp Eq.symm .inr
  · rintro (rfl | h | h)
    · rfl
    · exact h.text_eq
    · exact h.text_eq.symm

/-- The longer of two shifted versions has a slash. -/
lemma Shifted.not_hasPlainVersion (h : key.Shifted other) : ¬ other.HasPlainVersion := by
  obtain ⟨-, part, hversion, -⟩ := h
  rw [HasPlainVersion, eq_join_iff.mp hversion, not_not]
  exact List.mem_append_right _ List.mem_cons_self

/-- Keys whose versions have no slashes are told by their texts. -/
lemma text_eq_text_iff_of_plain (hkey : key.HasPlainVersion) (hother : other.HasPlainVersion) :
    key.text = other.text ↔ key = other := by
  rw [text_eq_text_iff]
  refine ⟨?_, .inl⟩
  rintro (h | h | h)
  · exact h
  · exact absurd hother h.not_hasPlainVersion
  · exact absurd hkey h.not_hasPlainVersion

end ArtifactKey

/-! ### What a store has under a key -/

namespace Store

/-- The store after objects have been put in, one after the other. -/
def afterPuts (puts : List (ArtifactKey × Bytes)) : Store :=
  puts.foldl (fun store p => store.put p.1 p.2) .empty

/-- The object that was put in last under one of some keys. -/
def lastPut? (puts : List (ArtifactKey × Bytes)) (meant : ArtifactKey → Bool) : Option Bytes :=
  (puts.reverse.find? fun p => meant p.1).map Prod.snd

/-- A store has under a key what was put in last under a key with the same text. -/
lemma get?_afterPuts (puts : List (ArtifactKey × Bytes)) (key : ArtifactKey) :
    (afterPuts puts).get? key = lastPut? puts fun other => other.text = key.text := by
  induction puts using List.reverseRecOn with
  | nil => rfl
  | append_singleton puts p ih =>
    have hafter : afterPuts (puts ++ [p]) = (afterPuts puts).put p.1 p.2 := List.foldl_concat ..
    rw [hafter, lastPut?, List.reverse_concat, List.find?_cons]
    by_cases htext : p.1.text = key.text
    · simp only [htext, decide_true, Option.map_some]
      rw [get?, put, htext]
      exact Dictionary.get?_put_self _ _ _
    · simp only [htext, decide_false]
      rw [get?, put, Dictionary.get?_put_of_ne _ _ htext]
      exact ih

/-- An object was put in under one of some keys exactly when there is a last one. -/
lemma isSome_lastPut? (puts : List (ArtifactKey × Bytes)) (meant : ArtifactKey → Bool) :
    (lastPut? puts meant).isSome = true ↔ ∃ p ∈ puts, meant p.1 = true := by
  rw [lastPut?, Option.isSome_map, List.find?_isSome]
  simp only [List.mem_reverse]

end Store

namespace ArtifactKey

/-- **Keys and their texts.** The texts of two keys are the same exactly when the keys are, or when
one is shifted against the other; so keys of two projects never have the same text. Whatever objects
have been put into a store, if neither their keys nor the key that is asked for have a slash in the
version, then the store has under this key what was put in last under this very key, and it has the
key exactly when something was. -/
theorem text_keeps_apart (puts : List (ArtifactKey × Bytes)) (key other : ArtifactKey) :
    (key.text = other.text ↔ key = other ∨ key.Shifted other ∨ other.Shifted key) ∧
      (key.project ≠ other.project → key.text ≠ other.text) ∧
      (key.HasPlainVersion → (∀ p ∈ puts, p.1.HasPlainVersion) →
        (∀ p ∈ puts, p.1.text = key.text ↔ p.1 = key) ∧
          (Store.afterPuts puts).get? key = Store.lastPut? puts (· = key) ∧
          ((Store.afterPuts puts).has key = true ↔ ∃ p ∈ puts, p.1 = key)) := by
  refine ⟨text_eq_text_iff, fun hne h => hne (project_eq_of_text_eq h), fun hkey hputs => ?_⟩
  have htext : ∀ p ∈ puts, p.1.text = key.text ↔ p.1 = key := fun p hp =>
    text_eq_text_iff_of_plain (hputs p hp) hkey
  have hlast : Store.lastPut? puts (fun other => other.text = key.text) =
      Store.lastPut? puts (· = key) := by
    refine congrArg (Option.map Prod.snd) (List.find?_congr fun p hp => ?_)
    exact decide_eq_decide.mpr (htext p (List.mem_reverse.mp hp))
  have hget := (Store.get?_afterPuts puts key).trans hlast
  refine ⟨htext, hget, ?_⟩
  have hhas : (Store.afterPuts puts).has key = ((Store.afterPuts puts).get? key).isSome := rfl
  rw [hhas, hget, Store.isSome_lastPut?]
  simp only [decide_eq_true_eq]

/-- A file of two releases and of another project, each of them kept apart from the others. -/
theorem text_keeps_releases_apart :
    let key (project : Int64) (version : Option String) : ArtifactKey :=
      make ⟨⟨project⟩, version⟩ "https://cdn.test/app.js"
    let puts : List (ArtifactKey × Bytes) :=
      [(key 1 (some "1.0"), [1]), (key 1 (some "2.0"), [2]), (key 1 (some "1.0"), [3])]
    (Store.afterPuts puts).get? (key 1 (some "1.0")) = some [3] ∧
      (Store.afterPuts puts).has (key 1 none) = false ∧
      (key 2 (some "1.0")).text ≠ (key 1 (some "1.0")).text := by
  intro key puts
  have hputs : ∀ p ∈ puts, p.1.HasPlainVersion := by decide
  obtain ⟨-, hapart, hfirst⟩ := text_keeps_apart puts (key 1 (some "1.0")) (key 2 (some "1.0"))
  obtain ⟨-, -, hnone⟩ := text_keeps_apart puts (key 1 none) (key 2 none)
  refine ⟨(hfirst (by decide) hputs).2.1, ?_, (hapart (by decide)).symm⟩
  rw [Bool.eq_false_iff, ne_eq, (hnone (by decide) hputs).2.2]
  decide

/-- An object is put in under a key with one version and found under a key with another version and
another location. -/
theorem store_serves_shifted :
    let key := make ⟨⟨1⟩, some "1"⟩ "disk/rel/app.js"
    let other := make ⟨⟨1⟩, some "1/disk/rel"⟩ "app.js"
    key.version ≠ other.version ∧ key.location ≠ other.location ∧ key.text = other.text ∧
      ∀ data, (Store.afterPuts [(key, data)]).get? other = some data ∧
        (Store.afterPuts [(key, data)]).has other = true := by
  intro key other
  have hshifted : key.Shifted other := ⟨rfl, "disk/rel", by decide, by decide⟩
  have htext := hshifted.text_eq
  have hget : ∀ data, (Store.afterPuts [(key, data)]).get? other = some data := by
    intro data
    rw [Store.get?_afterPuts, Store.lastPut?, List.reverse_singleton, List.find?_singleton]
    simp only [htext, decide_true]
    rfl
  refine ⟨by decide, by decide, htext, fun data => ⟨hget data, ?_⟩⟩
  exact congrArg Option.isSome (hget data)

end ArtifactKey

end Retrace
