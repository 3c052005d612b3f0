import Mathlib
import Retrace.MapLocation
import Retrace.Proofs.Text.Parts
import Retrace.Proofs.Url.Scheme

/-!
# `data:` URLs that are fetched

A value that starts with `data:` holds the map itself. It is told by these very characters, while a
URL has the scheme `data` in any case of letters and behind blanks as well, so a value may be such a
URL without holding the map: then its place is the URL itself, which is to be fetched
(`upperCase_fetched`). There is one more way to a `data:` URL, through a generated file whose own
location has this scheme. These two are all (`resolve?_dataUrls`).
-/

namespace Retrace

/-! ### Paths beside a file -/

namespace FilePath

/-- A path is its start and what follows. -/
lemma splitStart_append (path : List Char) : (splitStart path).1 ++ (splitStart path).2 = path := by
  unfold splitStart
  split <;> rfl

/-- Dropping the parts without a name at the end leaves a front. -/
lemma prefix_dropUnnamed (parts : List (List Char)) : dropUnnamed parts <+: parts := by
  have hend := List.dropWhile_suffix (fun part => !isNamed part) (l := parts.reverse)
  rwa [← List.reverse_prefix, List.reverse_reverse] at hend

/-- The directory of a path is a text at its front. -/
lemma prefix_parent (path : List Char) : parent path <+: path := by
  unfold parent
  dsimp only
  split
  · exact List.nil_prefix
  · next last before hparts =>
    have hbefore : before.reverse <+: dropUnnamed (Text.splitOn '/' (splitStart path).2) := by
      rw [← List.reverse_reverse (dropUnnamed _), hparts, List.reverse_cons]
      exact List.prefix_append _ _
    have hparts : dropUnnamed before.reverse <+: Text.splitOn '/' (splitStart path).2 :=
      (prefix_dropUnnamed before.reverse).trans (hbefore.trans (prefix_dropUnnamed _))
    conv_rhs => rw [← splitStart_append path, ← Text.joinWith_splitOn '/' (splitStart path).2]
    exact (List.prefix_append_right_inj _).mpr (Text.prefix_joinWith hparts)

/-- A path in a directory is the path itself, or it goes on behind a text at the front of the
directory and a slash. -/
lemma join_cases (directory path : List Char) :
    join directory path = path ∨
      ∃ front, front <+: directory ∧ join directory path = front ++ '/' :: path := by
  unfold join
  split
  · exact .inl rfl
  · split
    · next h =>
      rcases List.eq_nil_or_concat directory with rfl | ⟨front, last, rfl⟩
      · exact .inl rfl
      · have hlast : last = '/' := by simpa using h
        refine .inr ⟨front, ?_, ?_⟩
        · rw [List.concat_eq_append]
          exact List.prefix_append _ _
        · rw [List.concat_eq_append, hlast, ← List.append_cons]
    · exact .inr ⟨directory, List.prefix_rfl, rfl⟩

end FilePath

namespace MapLocation

variable {source value location : String}

/-- The scheme of the URLs that hold data. -/
def dataScheme : List Char := "data".toList

/-- A location that is a URL which holds data. -/
def IsDataUrl (location : String) : Prop :=
  ∃ u, Url.parse? location.toList = .ok u ∧ u.scheme = dataScheme

instance (location : String) : Decidable (IsDataUrl location) :=
  match h : Url.parse? location.toList with
  | .ok u => decidable_of_iff (u.scheme = dataScheme) (by simp [IsDataUrl, h])
  | .error _ => .isFalse (by simp [IsDataUrl, h])

/-- A `data:` URL has its scheme at the front. -/
lemma IsDataUrl.schemeOf? (h : IsDataUrl location) :
    Url.schemeOf? location.toList = some dataScheme := by
  obtain ⟨u, hu, hscheme⟩ := h
  rw [← hscheme]
  exact Url.schemeOf?_of_parse? hu

/-- A `data:` URL is taken for a URL. -/
lemma IsDataUrl.isUrl (h : IsDataUrl location) : isUrl location = true := by
  obtain ⟨u, hu, hscheme⟩ := h
  have hlength : 1 < u.scheme.length := by
    rw [hscheme]
    decide
  rw [Retrace.isUrl, locationUrl?, hu]
  simp [hlength]

/-- The URL of a location is what the location is read as, and its scheme is no letter of a drive.
-/
lemma exists_of_locationUrl? {base : Url} (h : locationUrl? location = some base) :
    Url.parse? location.toList = .ok base ∧ 1 < base.scheme.length := by
  unfold locationUrl? at h
  split at h
  · next u hu =>
    split at h
    · next hlength =>
      cases h
      exact ⟨hu, hlength⟩
    · cases h
  · cases h

/-- A value that holds the map itself holds it or is in error. -/
lemma resolve?_of_dataMark (h : dataMark <+: value.toList) (source : String) :
    (∃ data, resolve? source value = .ok (.inline data)) ∨
      ∃ e, resolve? source value = .error (.inline e) := by
  obtain ⟨text, htext⟩ := h
  unfold resolve?
  rw [← htext, Text.after?_append]
  dsimp only
  split
  · next data _ => exact .inl ⟨data, rfl⟩
  · next e _ => exact .inr ⟨e, rfl⟩

/-- A value without the mark has nothing behind it. -/
lemma after?_dataMark (h : ¬ dataMark <+: value.toList) :
    Text.after? dataMark value.toList = none := by
  rw [Option.eq_none_iff_forall_ne_some]
  intro text htext
  exact h ⟨text, (Text.after?_eq_some_iff.mp htext).symm⟩

/-- A `data:` URL that does not start with the mark is fetched. -/
lemma resolve?_of_isDataUrl (hmark : ¬ dataMark <+: value.toList) (h : IsDataUrl value)
    (source : String) : resolve? source value = .ok (.external value) := by
  unfold resolve?
  rw [after?_dataMark hmark]
  dsimp only
  rw [if_pos h.isUrl]

/-- A reference that is no `data:` URL leads to one only from one. -/
lemma schemeOf?_of_join? {base u : Url} (hbase : Url.parse? source.toList = .ok base)
    (hvalue : isUrl value = false) (hjoin : base.join? value.toList = .ok u)
    (hdata : IsDataUrl u.toString) : Url.schemeOf? source.toList = some dataScheme := by
  have hsource := Url.schemeOf?_of_parse? hbase
  have hu : u.scheme = dataScheme := by
    have hscheme : Url.IsScheme u.scheme ∧ u.scheme.map Char.toLower = u.scheme := by
      rcases Url.scheme_of_read? hjoin with h | ⟨-, b, hb, h⟩
      · exact Url.isScheme_of_schemeOf? h
      · cases hb
        rw [h]
        exact Url.isScheme_of_schemeOf? hsource
    have htext := hdata.schemeOf?
    rw [Url.toString, String.toList_ofList, Url.schemeOf?_text hscheme.1 hscheme.2] at htext
    exact Option.some.inj htext
  rcases Url.scheme_of_read? hjoin with h | ⟨-, b, hb, h⟩
  · -- a value with this scheme would be a URL by itself
    rw [hu] at h
    have hother : Url.Kind.ofScheme dataScheme = .other := by decide
    have hparse : Url.parse? value.toList = .ok u := by
      rw [← Url.read?_eq_parse? h (.inl hother)]
      exact hjoin
    have hisUrl : IsDataUrl value := ⟨u, hparse, hu⟩
    rw [hisUrl.isUrl] at hvalue
    cases hvalue
  · cases hb
    rw [hsource, ← h, hu]

/-- A path beside a file is a `data:` URL only if the path of the file starts like one. -/
lemma schemeOf?_of_beside (hvalue : isUrl value = false)
    (hdata : IsDataUrl (String.ofList
      (FilePath.join (FilePath.parent source.toList) value.toList))) :
    Url.schemeOf? source.toList = some dataScheme := by
  have hscheme := hdata.schemeOf?
  rw [String.toList_ofList] at hscheme
  rcases FilePath.join_cases (FilePath.parent source.toList) value.toList with h | ⟨front, hfront, h⟩
  · rw [h, String.ofList_toList] at hdata
    rw [hdata.isUrl] at hvalue
    cases hvalue
  · obtain ⟨rest, hrest⟩ := hfront.trans (FilePath.prefix_parent source.toList)
    rw [h] at hscheme
    rw [← hrest]
    exact Url.schemeOf?_of_before_slash hscheme rest

/-- **`data:` URLs.** A value that starts with `data:` is never fetched: it holds the map, or it is
an error. A `data:` URL that is spelled in another way is always fetched. Apart from that, a `data:`
URL is fetched only for a file whose own location starts with this scheme. -/
theorem resolve?_dataUrls (source value : String) :
    (dataMark <+: value.toList → (∃ data, resolve? source value = .ok (.inline data)) ∨
      ∃ e, resolve? source value = .error (.inline e)) ∧
    (¬ dataMark <+: value.toList → IsDataUrl value →
      resolve? source value = .ok (.external value)) ∧
    ∀ location, resolve? source value = .ok (.external location) → IsDataUrl location →
      ¬ dataMark <+: value.toList ∧ ((location = value ∧ IsDataUrl value) ∨
        Url.schemeOf? source.toList = some dataScheme) := by
  refine ⟨fun h => resolve?_of_dataMark h source, fun h hvalue => resolve?_of_isDataUrl h hvalue source,
    fun location h hdata => ?_⟩
  have hmark : ¬ dataMark <+: value.toList := by
    intro hmark
    rcases resolve?_of_dataMark hmark source with ⟨data, hinline⟩ | ⟨e, herror⟩
    · rw [h] at hinline
      cases hinline
    · rw [h] at herror
      cases herror
  refine ⟨hmark, ?_⟩
  unfold resolve? at h
  rw [after?_dataMark hmark] at h
  dsimp only at h
  split at h
  · cases h
    exact .inl ⟨rfl, hdata⟩
  · next hvalue =>
    rw [Bool.not_eq_true] at hvalue
    right
    split at h
    · next base hbase =>
      split at h
      · next u hjoin =>
        cases h
        exact schemeOf?_of_join? (exists_of_locationUrl? hbase).1 hvalue hjoin hdata
      · cases h
    · cases h
      exact schemeOf?_of_beside hvalue hdata

/-- A `data:` URL with a tab in front is fetched, and a file at such a URL has its map beside it. -/
theorem resolve?_dataUrls_fetched :
    let value := "\tdata:,x"
    let source := "data:/dist/app.js"
    let location := "data:/dist/app.js.map"
    (¬ dataMark <+: value.toList ∧ IsDataUrl value ∧
      resolve? "app.js" value = .ok (.external value)) ∧
    (resolve? source "app.js.map" = .ok (.external location) ∧ IsDataUrl location ∧
      Url.schemeOf? source.toList = some dataScheme) := by
  intro value source location
  have hmark : ¬ dataMark <+: value.toList := by decide +kernel
  have hvalue : IsDataUrl value := by decide +kernel
  have hfetched := (resolve?_dataUrls "app.js" value).2.1 hmark hvalue
  have hresolve : resolve? source "app.js.map" = .ok (.external location) := by decide +kernel
  have hlocation : IsDataUrl location := by decide +kernel
  have hne : location ≠ "app.js.map" := by decide
  obtain ⟨-, hcases⟩ := (resolve?_dataUrls source "app.js.map").2.2 location hresolve hlocation
  exact ⟨⟨hmark, hvalue, hfetched⟩, hresolve, hlocation,
    hcases.resolve_left fun ⟨heq, _⟩ => hne heq⟩

/-- A `data:` URL in upper case is fetched, although it holds a map. -/
theorem upperCase_fetched :
    let value := "DATA:application/json;base64,eyJ2ZXJzaW9uIjozfQ=="
    resolve? "app.js" value = .ok (.external value) ∧ IsDataUrl value := by
  intro value
  have hmark : ¬ dataMark <+: value.toList := by decide +kernel
  have hvalue : IsDataUrl value := by decide +kernel
  exact ⟨resolve?_of_isDataUrl hmark hvalue "app.js", hvalue⟩

end MapLocation

end Retrace
