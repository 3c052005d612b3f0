import Mathlib
import Retrace.Proofs.MapLocation.DataUrls
import Retrace.Proofs.Url.Web

/-!
# References on the web

A reference in a file or a map on the web is resolved to a URL, or kept as it is, or refused, with
one exception (`resolved_onWeb`). A reference whose scheme is a single letter is taken for the path
of a file on a drive, and so for no URL, when it is looked at by itself. It is a URL, though, when it
is read relative to another one: then it stands for itself, and what comes out is its text as that
of a URL, with the letter in lower case and parts of it escaped. This is neither the reference nor
something that is taken for a URL (`driveLetter_changed`).
-/

namespace Retrace

namespace MapLocation

variable {location reference : String} {base u : Url} {letter : Char}

/-- A location that is a URL on the web. -/
def IsOnWeb (location : String) : Prop :=
  ∃ base, locationUrl? location = some base ∧ base.isWeb

instance (location : String) : Decidable (IsOnWeb location) :=
  match h : locationUrl? location with
  | some base => decidable_of_iff (base.isWeb = true) (by simp [IsOnWeb, h])
  | none => .isFalse (by simp [IsOnWeb, h])

/-- A text that is read as a URL is taken for one if its scheme has more than one letter. -/
lemma isUrl_of_parse? (h : Url.parse? location.toList = .ok u) :
    isUrl location = decide (1 < u.scheme.length) := by
  rw [isUrl, locationUrl?, h]
  dsimp only
  split <;> simp_all

/-- A URL of the web has a scheme of the web. -/
lemma kind_of_isWeb (h : base.isWeb = true) : Url.Kind.ofScheme base.scheme = .web := by
  simp only [Url.isWeb, Bool.or_eq_true, decide_eq_true_eq] at h
  rcases h with h | h <;> rw [h] <;> decide

/-- A single letter is no scheme of the web. -/
lemma kind_of_letter (letter : Char) : Url.Kind.ofScheme [letter] = .other := by
  simp [Url.Kind.ofScheme, Url.defaultPort]

/-- A scheme of the web has more than one letter. -/
lemma one_lt_length_of_web (h : Url.Kind.ofScheme u.scheme = .web) : 1 < u.scheme.length := by
  by_contra hshort
  rcases hscheme : u.scheme with _ | ⟨c, _ | ⟨d, rest⟩⟩
  · rw [hscheme] at h
    exact absurd h (by decide)
  · rw [hscheme, kind_of_letter] at h
    cases h
  · rw [hscheme] at hshort
    simp at hshort

/-- A reference without a scheme of a single letter, when it is read relative to a URL of the web,
gives a URL, unless it is one by itself. -/
lemma isUrl_of_join? (hbase : locationUrl? location = some base) (hweb : base.isWeb = true)
    (hreference : isUrl reference = false)
    (hscheme : ∀ scheme, Url.schemeOf? reference.toList = some scheme → 1 < scheme.length)
    (hjoin : base.join? reference.toList = .ok u) : isUrl u.toString = true := by
  have hkind := kind_of_isWeb hweb
  have hcanonical : base.Canonical :=
    Url.canonical_of_read? (by simp) (exists_of_locationUrl? hbase).1 hkind
  by_cases hu : Url.Kind.ofScheme u.scheme = .web
  · have hread : Url.Canonical u := by
      apply Url.canonical_of_read? _ hjoin hu
      rintro b ⟨⟩ -
      exact hcanonical
    have hparse := Url.parse?_text hread
    rw [isUrl_of_parse? (by rwa [Url.toString, String.toList_ofList])]
    simpa using one_lt_length_of_web hu
  · -- the reference has a scheme of its own, so that it would be a URL by itself
    rcases Url.scheme_of_read? hjoin with h | ⟨-, b, hb, h⟩
    · have hne : ∀ b ∈ some base, b.scheme ≠ u.scheme := by
        rintro b ⟨⟩ heq
        exact hu (heq ▸ hkind)
      have hparse : Url.parse? reference.toList = .ok u := by
        rw [← Url.read?_eq_parse? h (.inr hne)]
        exact hjoin
      rw [isUrl_of_parse? hparse] at hreference
      exact absurd (hscheme _ h) (by simpa using hreference)
    · cases hb
      exact absurd (h ▸ hkind) hu

/-- The name of a source on the web is that of the URL that it is resolved to. -/
lemma sourceName_of_join? (hbase : locationUrl? location = some base) (hweb : base.isWeb = true)
    (hreference : isUrl reference = false) (hjoin : base.join? reference.toList = .ok u) :
    sourceName location reference = u.toString := by
  unfold sourceName
  rw [hreference, hbase, Option.filter_some, hweb]
  simp only [Bool.false_eq_true, if_false, if_true, hjoin]

/-- A source whose name cannot be resolved keeps it. -/
lemma sourceName_of_join?_error {e : Url.Error} (hbase : locationUrl? location = some base)
    (hjoin : base.join? reference.toList = .error e) :
    sourceName location reference = reference := by
  unfold sourceName
  rw [hbase, Option.filter_some]
  split
  · rfl
  · split
    · rfl
    · next b hb =>
      split at hb
      · cases hb
        rw [hjoin]
      · cases hb

/-- In a file whose location is a URL the reference to a map is resolved, or in error. -/
lemma resolve?_of_base (hbase : locationUrl? location = some base)
    (hmark : ¬ dataMark <+: reference.toList) (hreference : isUrl reference = false) :
    resolve? location reference =
      match base.join? reference.toList with
      | .ok joined => .ok (.external joined.toString)
      | .error e => .error (.badUrl reference e) := by
  unfold resolve?
  rw [after?_dataMark hmark]
  cases hjoin : base.join? reference.toList <;>
    simp only [hreference, hbase, hjoin, Bool.false_eq_true, if_false]

/-- A value that holds the map itself has its scheme. -/
lemma schemeOf?_of_dataMark (h : dataMark <+: reference.toList) :
    Url.schemeOf? reference.toList = some dataScheme := by
  obtain ⟨rest, hrest⟩ := h
  have hscheme : Url.IsScheme dataScheme :=
    ⟨⟨'d', rfl, by decide⟩, List.all_eq_true.mp (by decide)⟩
  have happend : reference.toList = dataScheme ++ ':' :: rest := hrest.symm
  rw [happend, Url.schemeOf?_eq_some_iff]
  exact ⟨_, Url.scheme?_strip_append hscheme rest⟩

/-- What has a single letter for a scheme is no URL. -/
lemma isUrl_of_letter (h : Url.schemeOf? location.toList = some [letter]) :
    isUrl location = false := by
  cases hparse : Url.parse? location.toList with
  | error e => rw [isUrl, locationUrl?, hparse]; rfl
  | ok u =>
    have hscheme := Url.schemeOf?_of_parse? hparse
    rw [h] at hscheme
    rw [isUrl_of_parse? hparse, ← Option.some.inj hscheme]
    rfl

/-- Without a scheme of a single letter, a reference is kept as a source, or it gives a URL. -/
lemma sourceName_of_noLetter (hbase : locationUrl? location = some base) (hweb : base.isWeb = true)
    (hscheme : ∀ scheme, Url.schemeOf? reference.toList = some scheme → 1 < scheme.length) :
    sourceName location reference = reference ∨ isUrl (sourceName location reference) = true := by
  cases hreference : isUrl reference with
  | true =>
    left
    unfold sourceName
    rw [if_pos hreference]
  | false =>
    cases hjoin : base.join? reference.toList with
    | error e => exact .inl (sourceName_of_join?_error hbase hjoin)
    | ok u =>
      right
      rw [sourceName_of_join? hbase hweb hreference hjoin]
      exact isUrl_of_join? hbase hweb hreference hscheme hjoin

/-- Without a scheme of a single letter, the value of a directive gives a URL or an error. -/
lemma resolve?_of_noLetter (hbase : locationUrl? location = some base) (hweb : base.isWeb = true)
    (hscheme : ∀ scheme, Url.schemeOf? reference.toList = some scheme → 1 < scheme.length)
    (hmark : ¬ dataMark <+: reference.toList) :
    (∃ e, resolve? location reference = .error e) ∨
      ∃ u, resolve? location reference = .ok (.external u) ∧ isUrl u = true := by
  cases hreference : isUrl reference with
  | true =>
    refine .inr ⟨reference, ?_, hreference⟩
    unfold resolve?
    rw [after?_dataMark hmark]
    simp only [hreference, if_true]
  | false =>
    rw [resolve?_of_base hbase hmark hreference]
    cases hjoin : base.join? reference.toList with
    | error e => exact .inl ⟨.badUrl reference e, rfl⟩
    | ok u => exact .inr ⟨u.toString, rfl, isUrl_of_join? hbase hweb hreference hscheme hjoin⟩

/-- What has a single letter for a scheme does not hold a map itself. -/
lemma not_dataMark_of_letter (h : Url.schemeOf? reference.toList = some [letter]) :
    ¬ dataMark <+: reference.toList := by
  intro hmark
  rw [schemeOf?_of_dataMark hmark] at h
  have hlength := congrArg List.length (Option.some.inj h)
  exact absurd hlength (by simp [dataScheme])

/-- The text of a URL with a single letter for a scheme is taken for no URL. -/
lemma isUrl_text_of_letter (h : Url.schemeOf? reference.toList = some [letter])
    (hparse : Url.parse? reference.toList = .ok u) : isUrl u.toString = false := by
  have hscheme := Url.schemeOf?_of_parse? hparse
  obtain ⟨hsound, hlower⟩ := Url.isScheme_of_schemeOf? hscheme
  have htext : Url.schemeOf? u.toString.toList = some [letter] := by
    rw [Url.toString, String.toList_ofList, Url.schemeOf?_text hsound hlower, ← hscheme, h]
  exact isUrl_of_letter htext

/-- **References on the web.** In a file or a map on the web, a reference without a scheme of a
single letter is kept as it is or gives a URL when it names a source; as the value of a directive it
gives a URL or an error, unless it holds the map itself. A reference that has a single letter for a
scheme gives its text as that of a URL in both cases, which is taken for no URL; if it cannot be
read it is kept, or an error. -/
theorem resolved_onWeb (hlocation : IsOnWeb location) (reference : String) :
    ((∀ scheme, Url.schemeOf? reference.toList = some scheme → 1 < scheme.length) →
      (sourceName location reference = reference ∨ isUrl (sourceName location reference) = true) ∧
      (¬ dataMark <+: reference.toList →
        (∃ e, resolve? location reference = .error e) ∨
          ∃ u, resolve? location reference = .ok (.external u) ∧ isUrl u = true)) ∧
    ∀ letter, Url.schemeOf? reference.toList = some [letter] →
      (∀ u, Url.parse? reference.toList = .ok u →
        sourceName location reference = u.toString ∧
        resolve? location reference = .ok (.external u.toString) ∧ isUrl u.toString = false) ∧
      ∀ e, Url.parse? reference.toList = .error e →
        sourceName location reference = reference ∧
        resolve? location reference = .error (.badUrl reference e) := by
  obtain ⟨base, hbase, hweb⟩ := hlocation
  constructor
  · intro hscheme
    exact ⟨sourceName_of_noLetter hbase hweb hscheme, resolve?_of_noLetter hbase hweb hscheme⟩
  · intro letter hletter
    have hreference := isUrl_of_letter hletter
    have hmark := not_dataMark_of_letter hletter
    -- a scheme of its own leaves nothing of the location
    have hjoin : base.join? reference.toList = Url.parse? reference.toList :=
      Url.read?_eq_parse? hletter (.inl (kind_of_letter letter))
    have hresolve := resolve?_of_base hbase hmark hreference
    constructor
    · intro u hparse
      rw [hparse] at hjoin
      rw [hjoin] at hresolve
      exact ⟨sourceName_of_join? hbase hweb hreference hjoin, hresolve,
        isUrl_text_of_letter hletter hparse⟩
    · intro e hparse
      rw [hparse] at hjoin
      rw [hjoin] at hresolve
      exact ⟨sourceName_of_join?_error hbase hjoin, hresolve⟩

/-- A map in another directory of a host that is not in ASCII, and a source on a drive. -/
theorem resolved_onWeb_both :
    let location := "https://user@B\u00FCcher.example:8080/dist/js/app.js"
    let value := "../maps/a b.map"
    let source := "D:/a b.ts"
    IsOnWeb location ∧
      (resolve? location value =
          .ok (.external "https://user@xn--bcher-kva.example:8080/dist/maps/a%20b.map") ∧
        ∃ u, resolve? location value = .ok (.external u) ∧ isUrl u = true) ∧
      (Url.schemeOf? source.toList = some ['d'] ∧ sourceName location source = "d:/a%20b.ts") := by
  intro location value source
  have hlocation : IsOnWeb location := by decide +kernel
  have hresolve : resolve? location value =
      .ok (.external "https://user@xn--bcher-kva.example:8080/dist/maps/a%20b.map") := by
    decide +kernel
  have hnone : Url.schemeOf? value.toList = none := by decide +kernel
  have hmark : ¬ dataMark <+: value.toList := by decide +kernel
  have hletter : Url.schemeOf? source.toList = some ['d'] := by decide +kernel
  have hparse : Url.parse? source.toList =
      .ok ⟨['d'], none, .segments ["a%20b.ts".toList], none, none⟩ := by decide +kernel
  refine ⟨hlocation, ⟨hresolve, ?_⟩, hletter, ?_⟩
  · have hplain := (resolved_onWeb hlocation value).1 (by simp [hnone])
    rcases hplain.2 hmark with ⟨e, he⟩ | hurl
    · rw [hresolve] at he
      cases he
    · exact hurl
  · rw [(((resolved_onWeb hlocation source).2 'd' hletter).1 _ hparse).1]
    decide +kernel

/-- The path of a file on a drive becomes neither itself nor a URL. -/
theorem driveLetter_changed :
    let location := "https://example.com/app.js.map"
    let source := "C:\\build\\app.ts"
    IsOnWeb location ∧ sourceName location source ≠ source ∧
      isUrl (sourceName location source) = false ∧
      resolve? location source = .ok (.external "c:\\build\\app.ts") ∧
      isUrl "c:\\build\\app.ts" = false := by
  decide +kernel

end MapLocation

end Retrace
