import Mathlib
import Retrace.Artifact

/-!
# Locations with the same normal form

A location is a URL, a path from the root or another path, and its normal form starts with a name
for its kind: the scheme of the URL, `disk/abs` or `disk/rel`. So two locations with the same normal
form are of one kind, and then they are two ways to write the same location (`SameLocation`): URLs
whose schemes differ in case only, or paths with more or fewer marks of the current directory in
front.

The names of the kinds do not quite keep apart, as nothing keeps a URL from having the scheme
`disk`. Then it is kept like the path that it spells (`Spells`). There are no other exceptions
(`make_eq_make_iff`), and there are these (`make_spelled_path`).
-/

namespace Retrace

/-- A character of a scheme. -/
lemma toLower_eq_slash_iff {c : Char} : c.toLower = '/' ↔ c = '/' := by
  constructor
  · intro h
    rw [Char.toLower] at h
    split at h
    · next hupper =>
      -- a capital letter becomes a small one
      have hlow : (65 : UInt32) ≤ c.val := hupper.1
      have hhigh : c.val ≤ (90 : UInt32) := hupper.2
      have hval : c.val + 32 = (47 : UInt32) := congrArg Char.val h
      have hsum := congrArg UInt32.toNat hval
      rw [UInt32.le_iff_toNat_le] at hlow hhigh
      rw [UInt32.toNat_add] at hsum
      simp at hlow hhigh hsum
      omega
    · exact h
  · rintro rfl
    rfl

namespace ArtifactKey

/-! ### Kinds of locations -/

/-- A location that is a URL, with its scheme and what follows the mark. -/
structure IsUrl (scheme rest location : List Char) : Prop where
  isScheme : isScheme scheme = true
  eq : location = scheme ++ (schemeMark ++ rest)

/-- A location that is a path from the root. -/
def IsRooted (location : List Char) : Prop :=
  ∃ path, location = '/' :: path

/-- A location that is neither a URL nor a path from the root. -/
structure IsRelative (location : List Char) : Prop where
  not_isUrl (scheme rest : List Char) : ¬ IsUrl scheme rest location
  not_isRooted : ¬ IsRooted location

/-- A path with marks of the current directory in front of it. -/
inductive Marked (path : List Char) : List Char → Prop
  | self : Marked path path
  | mark {marked : List Char} (h : Marked path marked) : Marked path ('.' :: '/' :: marked)

/-- Two ways to write the same location. -/
inductive SameLocation : List Char → List Char → Prop
  | refl (location : List Char) : SameLocation location location
  | url {scheme other rest location location' : List Char} (h : IsUrl scheme rest location)
      (h' : IsUrl other rest location')
      (hcase : scheme.map Char.toLower = other.map Char.toLower) :
      SameLocation location location'
  | relative {path location location' : List Char} (h : IsRelative location)
      (h' : IsRelative location') (hmarked : Marked path location)
      (hmarked' : Marked path location') : SameLocation location location'

/-- Locations of the same kind. -/
structure SameKind (location location' : List Char) : Prop where
  url : (∃ scheme rest, IsUrl scheme rest location) ↔ ∃ scheme rest, IsUrl scheme rest location'
  rooted : IsRooted location ↔ IsRooted location'
  relative : IsRelative location ↔ IsRelative location'

/-- The scheme under whose name paths are kept. -/
def disk : List Char := "disk".toList

/-- A URL whose scheme is the one under whose name paths are kept. -/
def IsDiskUrl (location : List Char) : Prop :=
  ∃ scheme rest, IsUrl scheme rest location ∧ scheme.map Char.toLower = disk

/-- A URL that spells the name under which a path is kept. -/
inductive Spells : List Char → List Char → Prop
  | rooted {scheme path url : List Char} (h : IsUrl scheme ("abs/".toList ++ path) url)
      (hdisk : scheme.map Char.toLower = disk) : Spells url ('/' :: path)
  | relative {scheme path url location : List Char} (h : IsUrl scheme ("rel/".toList ++ path) url)
      (hdisk : scheme.map Char.toLower = disk) (hlocation : IsRelative location)
      (hmarked : Marked path location) (hbare : ∀ rest, path ≠ '.' :: '/' :: rest) :
      Spells url location

variable {scheme other rest path location location' : List Char}

/-! ### Schemes -/

/-- What sets off a scheme, and what ends a part of a key, does not stand in a scheme. -/
lemma not_mem_of_isScheme (h : isScheme scheme = true) : ':' ∉ scheme ∧ '/' ∉ scheme := by
  cases scheme with
  | nil => cases h
  | cons c rest =>
    simp only [isScheme, Bool.and_eq_true] at h
    obtain ⟨⟨-, hfirst⟩, hrest⟩ := h
    have hall : ∀ d ∈ c :: rest, d.isAlphanum = true ∨ d = '+' ∨ d = '-' ∨ d = '.' := by
      intro d hd
      rcases List.mem_cons.mp hd with rfl | hmem
      · exact .inl (by simp [Char.isAlphanum, hfirst])
      · simpa [or_assoc] using List.all_eq_true.mp hrest d hmem
    constructor
    · intro hcolon
      exact absurd (hall ':' hcolon) (by decide)
    · intro hslash
      exact absurd (hall '/' hslash) (by decide)

/-- The small letters of a scheme end before the first slash as well. -/
lemma slash_not_mem_of_isScheme (h : isScheme scheme = true) : '/' ∉ scheme.map Char.toLower := by
  intro hmem
  obtain ⟨c, hc, hslash⟩ := List.mem_map.mp hmem
  rw [toLower_eq_slash_iff.mp hslash] at hc
  exact (not_mem_of_isScheme h).2 hc

/-- A location is split at the mark of its scheme exactly when it is a URL. -/
lemma splitScheme?_eq_some_iff :
    splitScheme? location = some (scheme, rest) ↔ IsUrl scheme rest location := by
  rw [splitScheme?, Option.filter_eq_some_iff]
  constructor
  · rintro ⟨hsplit, hscheme⟩
    exact ⟨hscheme, Text.eq_of_splitFirst?_eq_some hsplit⟩
  · rintro ⟨hscheme, rfl⟩
    exact ⟨Text.splitFirst?_append (not_mem_of_isScheme hscheme).1 rest, hscheme⟩

/-- The scheme of a URL, and what follows its mark, are told by the URL. -/
lemma IsUrl.unique {rest' : List Char} (h : IsUrl scheme rest location)
    (h' : IsUrl other rest' location) : scheme = other ∧ rest = rest' := by
  have heq := (splitScheme?_eq_some_iff.mpr h).symm.trans (splitScheme?_eq_some_iff.mpr h')
  exact Prod.mk.inj (Option.some.inj heq)

/-- A path from the root is no URL. -/
lemma not_isUrl_rooted : ¬ IsUrl scheme rest ('/' :: path) := by
  rintro ⟨hscheme, heq⟩
  cases scheme with
  | nil => cases hscheme
  | cons c scheme =>
    obtain rfl : '/' = c := (List.cons.inj heq).1
    exact (not_mem_of_isScheme hscheme).2 List.mem_cons_self

/-- Every location is of one of the three kinds. -/
lemma kinds (location : List Char) :
    (∃ scheme rest, IsUrl scheme rest location) ∨ (∃ path, location = '/' :: path) ∨
      IsRelative location := by
  by_cases hurl : ∃ scheme rest, IsUrl scheme rest location
  · exact .inl hurl
  · by_cases hrooted : IsRooted location
    · exact .inr (.inl hrooted)
    · exact .inr (.inr ⟨fun scheme rest h => hurl ⟨scheme, rest, h⟩, hrooted⟩)

/-! ### Marks of the current directory -/

/-- A path without its marks has them in front of it. -/
lemma marked_dropCurrent (path : List Char) : Marked (dropCurrent path) path := by
  fun_induction dropCurrent path with
  | case1 rest ih => exact ih.mark
  | case2 path _ => exact .self

/-- A path without its marks has none. -/
lemma dropCurrent_ne (path rest : List Char) : dropCurrent path ≠ '.' :: '/' :: rest := by
  fun_induction dropCurrent path with
  | case1 _ ih => exact ih
  | case2 path hbare => exact fun heq => hbare rest heq

/-- A path without marks stays as it is. -/
lemma dropCurrent_eq_self (hbare : ∀ rest, path ≠ '.' :: '/' :: rest) :
    dropCurrent path = path := by
  rw [dropCurrent]
  exact hbare

/-- It does not matter with how many marks a path is written. -/
lemma Marked.dropCurrent_eq (h : Marked path location) :
    dropCurrent location = dropCurrent path := by
  induction h with
  | self => rfl
  | mark _ ih => exact ih

/-- Two paths are the same without their marks exactly when they are one path with marks. -/
lemma dropCurrent_eq_dropCurrent_iff :
    dropCurrent location = dropCurrent location' ↔
      ∃ path, Marked path location ∧ Marked path location' := by
  constructor
  · intro h
    exact ⟨dropCurrent location, marked_dropCurrent location, h ▸ marked_dropCurrent location'⟩
  · rintro ⟨path, hmarked, hmarked'⟩
    rw [hmarked.dropCurrent_eq, hmarked'.dropCurrent_eq]

/-! ### Normal forms by kind -/

/-- The normal form of a URL. -/
lemma IsUrl.normalize_eq (h : IsUrl scheme rest location) :
    normalize location = scheme.map Char.toLower ++ '/' :: rest := by
  rw [normalize.eq_def, splitScheme?_eq_some_iff.mpr h]

/-- What is no URL is not split. -/
lemma splitScheme?_eq_none (h : ∀ scheme rest, ¬ IsUrl scheme rest location) :
    splitScheme? location = none := by
  cases hsplit : splitScheme? location with
  | none => rfl
  | some p => exact absurd (splitScheme?_eq_some_iff.mp hsplit) (h p.1 p.2)

/-- The normal form of a path from the root. -/
lemma normalize_rooted (path : List Char) :
    normalize ('/' :: path) = disk ++ '/' :: ("abs/".toList ++ path) := by
  rw [normalize, splitScheme?_eq_none fun _ _ => not_isUrl_rooted]
  rfl

/-- The normal form of any other path. -/
lemma IsRelative.normalize_eq (h : IsRelative location) :
    normalize location = disk ++ '/' :: ("rel/".toList ++ dropCurrent location) := by
  have hpath : ∀ path, location = '/' :: path → False := fun path heq =>
    h.not_isRooted ⟨path, heq⟩
  rw [normalize.eq_2 location hpath, splitScheme?_eq_none h.not_isUrl]
  rfl

/-- The name under which paths are kept ends before the first slash. -/
lemma slash_not_mem_disk : '/' ∉ disk := by decide

/-- URLs with the same normal form. -/
lemma IsUrl.normalize_eq_iff {rest' : List Char} (h : IsUrl scheme rest location)
    (h' : IsUrl other rest' location') :
    normalize location = normalize location' ↔
      scheme.map Char.toLower = other.map Char.toLower ∧ rest = rest' := by
  rw [h.normalize_eq, h'.normalize_eq]
  exact Text.append_separator_inj (slash_not_mem_of_isScheme h.isScheme)
    (slash_not_mem_of_isScheme h'.isScheme)

/-- A URL with the normal form of a path. -/
lemma IsUrl.normalize_eq_path_iff {name : List Char} (h : IsUrl scheme rest location) :
    normalize location = disk ++ '/' :: name ↔ scheme.map Char.toLower = disk ∧ rest = name := by
  rw [h.normalize_eq]
  exact Text.append_separator_inj (slash_not_mem_of_isScheme h.isScheme) slash_not_mem_disk

/-- Paths from the root and other paths have different normal forms. -/
lemma IsRelative.normalize_ne_rooted (h : IsRelative location) (path : List Char) :
    normalize location ≠ normalize ('/' :: path) := by
  rw [h.normalize_eq, normalize_rooted]
  intro heq
  have htail := List.append_cancel_left heq
  exact absurd (List.cons.inj (List.cons.inj htail).2).1 (by decide)

/-! ### The same normal form -/

lemma SameLocation.symm (h : SameLocation location location') :
    SameLocation location' location := by
  cases h with
  | refl => exact .refl location
  | url h h' hcase => exact .url h' h hcase.symm
  | relative h h' hmarked hmarked' => exact .relative h' h hmarked' hmarked

/-- Two ways to write the same location have the same normal form. -/
lemma SameLocation.normalize_eq (h : SameLocation location location') :
    normalize location = normalize location' := by
  cases h with
  | refl => rfl
  | url h h' hcase => exact (h.normalize_eq_iff h').mpr ⟨hcase, rfl⟩
  | relative h h' hmarked hmarked' =>
    rw [h.normalize_eq, h'.normalize_eq, hmarked.dropCurrent_eq, hmarked'.dropCurrent_eq]

/-- A URL that spells the name of a path has the normal form of the path. -/
lemma Spells.normalize_eq (h : Spells location location') :
    normalize location = normalize location' := by
  cases h with
  | @rooted scheme path url h hdisk =>
    rw [normalize_rooted]
    exact h.normalize_eq_path_iff.mpr ⟨hdisk, rfl⟩
  | relative h hdisk hlocation hmarked hbare =>
    rw [hlocation.normalize_eq, hmarked.dropCurrent_eq, dropCurrent_eq_self hbare]
    exact h.normalize_eq_path_iff.mpr ⟨hdisk, rfl⟩

/-- A URL and a location with the same normal form. -/
lemma IsUrl.same_or_spells (h : IsUrl scheme rest location)
    (heq : normalize location = normalize location') :
    SameLocation location location' ∨ Spells location location' := by
  rcases kinds location' with ⟨other, rest', h'⟩ | ⟨path, rfl⟩ | h'
  · obtain ⟨hcase, rfl⟩ := (h.normalize_eq_iff h').mp heq
    exact .inl (.url h h' hcase)
  · rw [normalize_rooted] at heq
    obtain ⟨hdisk, rfl⟩ := h.normalize_eq_path_iff.mp heq
    exact .inr (.rooted h hdisk)
  · rw [h'.normalize_eq] at heq
    obtain ⟨hdisk, rfl⟩ := h.normalize_eq_path_iff.mp heq
    exact .inr (.relative h hdisk h' (marked_dropCurrent location') (dropCurrent_ne location'))

/-- Locations with the same normal form are two ways to write the same location, or one is a URL
that spells the name of the other. -/
lemma normalize_eq_normalize_iff :
    normalize location = normalize location' ↔
      SameLocation location location' ∨ Spells location location' ∨ Spells location' location := by
  constructor
  · intro heq
    rcases kinds location with ⟨scheme, rest, h⟩ | hpath
    · exact (h.same_or_spells heq).imp_right .inl
    · rcases kinds location' with ⟨scheme, rest, h'⟩ | hpath'
      · exact (h'.same_or_spells heq.symm).imp SameLocation.symm .inr
      · rcases hpath with ⟨path, rfl⟩ | h <;> rcases hpath' with ⟨path', rfl⟩ | h'
        · rw [normalize_rooted, normalize_rooted] at heq
          have htail := (List.cons.inj (List.append_cancel_left heq)).2
          obtain rfl := List.append_cancel_left htail
          exact .inl (.refl _)
        · exact absurd heq.symm (h'.normalize_ne_rooted path)
        · exact absurd heq (h.normalize_ne_rooted path')
        · rw [h.normalize_eq, h'.normalize_eq] at heq
          have htail := (List.cons.inj (List.append_cancel_left heq)).2
          have hdrop := List.append_cancel_left htail
          obtain ⟨path, hmarked, hmarked'⟩ := dropCurrent_eq_dropCurrent_iff.mp hdrop
          exact .inl (.relative h h' hmarked hmarked')
  · rintro (h | h | h)
    · exact h.normalize_eq
    · exact h.normalize_eq
    · exact h.normalize_eq.symm

/-- A URL that spells the name of a path has the scheme under whose name paths are kept. -/
lemma Spells.isDiskUrl (h : Spells location location') : IsDiskUrl location := by
  cases h with
  | rooted h hdisk => exact ⟨_, _, h, hdisk⟩
  | relative h hdisk => exact ⟨_, _, h, hdisk⟩

/-- Two ways to write the same location are of one kind. -/
lemma SameLocation.sameKind (h : SameLocation location location') :
    SameKind location location' := by
  cases h with
  | refl => exact ⟨.rfl, .rfl, .rfl⟩
  | url h h' =>
    have hrooted : ∀ {scheme rest url}, IsUrl scheme rest url → ¬ IsRooted url := by
      rintro scheme rest url hurl ⟨path, rfl⟩
      exact not_isUrl_rooted hurl
    have hrelative : ∀ {scheme rest url}, IsUrl scheme rest url → ¬ IsRelative url :=
      fun hurl hrel => hrel.not_isUrl _ _ hurl
    exact ⟨iff_of_true ⟨_, _, h⟩ ⟨_, _, h'⟩, iff_of_false (hrooted h) (hrooted h'),
      iff_of_false (hrelative h) (hrelative h')⟩
  | relative h h' =>
    have hurl : ∀ {path}, IsRelative path → ¬ ∃ scheme rest, IsUrl scheme rest path :=
      fun hrel ⟨scheme, rest, hurl⟩ => hrel.not_isUrl scheme rest hurl
    exact ⟨iff_of_false (hurl h) (hurl h'), iff_of_false h.not_isRooted h'.not_isRooted,
      iff_of_true h h'⟩

/-- Whether a location is a URL with the scheme under whose name paths are kept. -/
instance : DecidablePred IsDiskUrl := fun location =>
  decidable_of_iff (∃ p ∈ splitScheme? location, p.1.map Char.toLower = disk) <| by
    constructor
    · rintro ⟨p, hsplit, hdisk⟩
      exact ⟨p.1, p.2, splitScheme?_eq_some_iff.mp hsplit, hdisk⟩
    · rintro ⟨scheme, rest, hurl, hdisk⟩
      exact ⟨(scheme, rest), splitScheme?_eq_some_iff.mpr hurl, hdisk⟩

/-- Under one release locations have the same key when they have the same normal form. -/
lemma make_eq_make_iff_normalize (release : Release) (a b : String) :
    make release a = make release b ↔ normalize a.toList = normalize b.toList := by
  constructor
  · intro h
    exact String.ofList_injective (congrArg location h)
  · intro h
    rw [make, make, h]

/-- **Locations with the same key.** Under one release, two locations have the same key exactly when
they are two ways to write the same location, or one of them is a URL that spells the name under
which the other is kept. Apart from such URLs, locations with the same key are two ways to write the
same location, and so they are of one kind. -/
theorem make_eq_make_iff (release : Release) (a b : String) :
    (make release a = make release b ↔
        SameLocation a.toList b.toList ∨ Spells a.toList b.toList ∨ Spells b.toList a.toList) ∧
      (¬ IsDiskUrl a.toList → ¬ IsDiskUrl b.toList →
        (make release a = make release b ↔ SameLocation a.toList b.toList) ∧
          (make release a = make release b → SameKind a.toList b.toList)) := by
  have hiff : make release a = make release b ↔
      SameLocation a.toList b.toList ∨ Spells a.toList b.toList ∨ Spells b.toList a.toList :=
    (make_eq_make_iff_normalize release a b).trans normalize_eq_normalize_iff
  refine ⟨hiff, fun ha hb => ?_⟩
  have hsame : make release a = make release b ↔ SameLocation a.toList b.toList := by
    refine hiff.trans ⟨?_, .inl⟩
    rintro (h | h | h)
    · exact h
    · exact absurd h.isDiskUrl ha
    · exact absurd h.isDiskUrl hb
  exact ⟨hsame, fun heq => (hsame.mp heq).sameKind⟩

/-- The case of a scheme and marks of the current directory make no difference. -/
theorem make_other_spellings :
    let release : Release := ⟨⟨1⟩, some "1"⟩
    (¬ IsDiskUrl "HTTPS://cdn.test/app.js".toList ∧ ¬ IsDiskUrl "https://cdn.test/app.js".toList ∧
      make release "HTTPS://cdn.test/app.js" = make release "https://cdn.test/app.js" ∧
      SameLocation "HTTPS://cdn.test/app.js".toList "https://cdn.test/app.js".toList) ∧
    ¬ IsDiskUrl "././dist/app.js".toList ∧ ¬ IsDiskUrl "dist/app.js".toList ∧
      make release "././dist/app.js" = make release "dist/app.js" ∧
      SameKind "././dist/app.js".toList "dist/app.js".toList := by
  intro release
  have hcapital : ¬ IsDiskUrl "HTTPS://cdn.test/app.js".toList := by decide
  have hsmall : ¬ IsDiskUrl "https://cdn.test/app.js".toList := by decide
  have hurl : make release "HTTPS://cdn.test/app.js" = make release "https://cdn.test/app.js" := by
    decide
  have hmarked : ¬ IsDiskUrl "././dist/app.js".toList := by decide
  have hbare : ¬ IsDiskUrl "dist/app.js".toList := by decide
  have hpath : make release "././dist/app.js" = make release "dist/app.js" := by decide
  exact ⟨⟨hcapital, hsmall, hurl, ((make_eq_make_iff release _ _).2 hcapital hsmall).1.mp hurl⟩,
    hmarked, hbare, hpath, ((make_eq_make_iff release _ _).2 hmarked hbare).2 hpath⟩

/-- A URL and a path that have the same key, although they are no two ways to write the same
location. -/
theorem make_spelled_path :
    let release : Release := ⟨⟨1⟩, some "1"⟩
    make release "disk://rel/app.js" = make release "app.js" ∧
      IsUrl "disk".toList "rel/app.js".toList "disk://rel/app.js".toList ∧
      IsRelative "app.js".toList ∧
      ¬ SameLocation "disk://rel/app.js".toList "app.js".toList := by
  intro release
  have hurl : IsUrl "disk".toList "rel/app.js".toList "disk://rel/app.js".toList :=
    ⟨by decide, by decide⟩
  have hnone : splitScheme? "app.js".toList = none := by decide
  have hrelative : IsRelative "app.js".toList := by
    refine ⟨fun scheme rest h => ?_, fun ⟨path, h⟩ => ?_⟩
    · rw [splitScheme?_eq_some_iff.mpr h] at hnone
      cases hnone
    · exact absurd (List.cons.inj h).1 (by decide)
  refine ⟨by decide, hurl, hrelative, fun hsame => ?_⟩
  exact (hsame.sameKind.relative.mpr hrelative).not_isUrl _ _ hurl

end ArtifactKey

end Retrace
