import Mathlib
import Retrace.Settings.Basic

/-!
# Layers of settings

A layer sets some of the five settings, and of several layers the last one that sets a value
decides (`Setting.value_settings_foldl`). Every setting behaves alike, so that this is told once for
all of them. Layers form a monoid, with the layer that sets nothing as its unit (`merge_assoc`,
`empty_merge`, `merge_empty`).
-/

namespace Retrace

namespace Settings

/-- The settings of a run, by name. -/
inductive Setting
  | contextLines
  | requestTimeoutSecs
  | maxArtifactBytes
  | cacheCapacity
  | cacheTtlSecs
deriving Repr, DecidableEq

namespace Setting

/-- The value of a setting. -/
def value : Setting → Settings → ℕ
  | .contextLines, s => s.contextLines
  | .requestTimeoutSecs, s => s.requestTimeoutSecs
  | .maxArtifactBytes, s => s.maxArtifactBytes
  | .cacheCapacity, s => s.cacheCapacity
  | .cacheTtlSecs, s => s.cacheTtlSecs

/-- The value that a layer gives to a setting, if it sets it. -/
def inLayer : Setting → Layer → Option ℕ
  | .contextLines, layer => layer.contextLines
  | .requestTimeoutSecs, layer => layer.requestTimeoutSecs
  | .maxArtifactBytes, layer => layer.maxArtifactBytes
  | .cacheCapacity, layer => layer.cacheCapacity
  | .cacheTtlSecs, layer => layer.cacheTtlSecs

/-- The value that the last of several layers gives that set the setting. -/
def lastSet (f : Setting) (layers : List Layer) : Option ℕ :=
  layers.reverse.findSome? f.inLayer

/-- Settings with the same values are the same. -/
lemma ext_value {s t : Settings} (h : ∀ f : Setting, f.value s = f.value t) : s = t := by
  obtain ⟨_, _, _, _, _⟩ := s
  obtain ⟨_, _, _, _, _⟩ := t
  obtain rfl := h .contextLines
  obtain rfl := h .requestTimeoutSecs
  obtain rfl := h .maxArtifactBytes
  obtain rfl := h .cacheCapacity
  obtain rfl := h .cacheTtlSecs
  rfl

/-- Layers that set the same values are the same. -/
lemma ext_inLayer {a b : Layer} (h : ∀ f : Setting, f.inLayer a = f.inLayer b) : a = b := by
  obtain ⟨_, _, _, _, _⟩ := a
  obtain ⟨_, _, _, _, _⟩ := b
  obtain rfl := h .contextLines
  obtain rfl := h .requestTimeoutSecs
  obtain rfl := h .maxArtifactBytes
  obtain rfl := h .cacheCapacity
  obtain rfl := h .cacheTtlSecs
  rfl

/-- The empty layer sets nothing. -/
@[simp] lemma inLayer_empty (f : Setting) : f.inLayer .empty = none := by
  cases f <;> rfl

/-- Of two layers the later one decides where it sets a value. -/
@[simp] lemma inLayer_merge (f : Setting) (earlier later : Layer) :
    f.inLayer (earlier.merge later) = (f.inLayer later).or (f.inLayer earlier) := by
  cases f <;> rfl

/-- The settings of a layer have the default where it sets nothing. -/
@[simp] lemma value_settings (f : Setting) (layer : Layer) :
    f.value layer.settings = (f.inLayer layer).getD (f.value default) := by
  cases f <;> rfl

/-! ### Several layers -/

/-- A layer below others decides where none of them sets a value. -/
lemma lastSet_cons (f : Setting) (layer : Layer) (layers : List Layer) :
    f.lastSet (layer :: layers) = (f.lastSet layers).or (f.inLayer layer) := by
  rw [lastSet, lastSet, List.reverse_cons, List.findSome?_append, List.findSome?_singleton]

/-- Layers on top of one decide where they set a value. -/
lemma inLayer_foldl_merge (f : Setting) (layers : List Layer) (layer : Layer) :
    f.inLayer (layers.foldl Layer.merge layer) = (f.lastSet layers).or (f.inLayer layer) := by
  induction layers generalizing layer with
  | nil => rfl
  | cons first layers ih =>
    rw [List.foldl_cons, ih, inLayer_merge, lastSet_cons, Option.or_assoc]

/-- Of several layers the last one that sets a value decides, and otherwise the default. -/
lemma value_settings_foldl (f : Setting) (layers : List Layer) :
    f.value (layers.foldl Layer.merge .empty).settings =
      (f.lastSet layers).getD (f.value default) := by
  rw [value_settings, inLayer_foldl_merge, inLayer_empty, Option.or_none]

end Setting

namespace Layer

/-- It does not matter which layers are merged first. -/
lemma merge_assoc (a b c : Layer) : (a.merge b).merge c = a.merge (b.merge c) := by
  apply Setting.ext_inLayer
  intro f
  simp only [Setting.inLayer_merge, Option.or_assoc]

/-- The empty layer below another adds nothing. -/
@[simp] lemma empty_merge (layer : Layer) : Layer.empty.merge layer = layer := by
  apply Setting.ext_inLayer
  intro f
  rw [Setting.inLayer_merge, Setting.inLayer_empty, Option.or_none]

/-- The empty layer on top of another adds nothing. -/
@[simp] lemma merge_empty (layer : Layer) : layer.merge .empty = layer := by
  apply Setting.ext_inLayer
  intro f
  rw [Setting.inLayer_merge, Setting.inLayer_empty, Option.none_or]

end Layer

/-! ### The check -/

/-- Settings pass the check as they are if the numbers are in their bounds. -/
lemma check_eq_ok_iff {s t : Settings} :
    check s = .ok t ↔ t = s ∧ t.contextLines ≤ maxContextLines ∧ 0 < t.requestTimeoutSecs := by
  rw [check]
  split
  · next hlines =>
    refine ⟨fun h => (by cases h), ?_⟩
    rintro ⟨rfl, hle, -⟩
    exact absurd hlines (Nat.not_lt.mpr hle)
  · next hlines =>
    split
    · next htimeout =>
      refine ⟨fun h => (by cases h), ?_⟩
      rintro ⟨rfl, -, hpos⟩
      exact absurd htimeout hpos.ne'
    · next htimeout =>
      constructor
      · intro h
        cases h
        exact ⟨rfl, Nat.not_lt.mp hlines, Nat.pos_of_ne_zero htimeout⟩
      · rintro ⟨rfl, -, -⟩
        rfl

/-- Settings are refused for their number of lines, before all else, if it is out of its bounds. -/
lemma check_eq_tooMany_iff {s : Settings} {found : ℕ} :
    check s = .error (.tooManyContextLines found) ↔
      maxContextLines < s.contextLines ∧ found = s.contextLines := by
  rw [check]
  split
  · next hlines => simp [hlines, eq_comm]
  · next hlines => split <;> simp [hlines]

end Settings

end Retrace
