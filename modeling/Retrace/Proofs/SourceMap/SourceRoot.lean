import Mathlib
import Retrace.SourceMap.Basic

/-!
# The root in front of the sources

A map may have a root, which stands in front of the names of its sources with a slash between them.
However many slashes a root ends in, one of them is left (`toList_qualify`). So a root that ends in
one slash or in none stands as it is in front of the name, and one that ends in more is shortened
(`lookup?_source_behindRoot`): `webpack:///` becomes `webpack:/` (`slashes_lost`).
-/

namespace Retrace

namespace SourceMap

/-! ### The slashes at the end of a root -/

/-- The number of slashes at the end of a root. -/
def slashesAtEnd (root : List Char) : ℕ := (root.rtakeWhile (· == '/')).length

/-- A root is what is left of it without the slashes at its end, and these slashes. -/
lemma trimSlashes_append (root : List Char) :
    trimSlashes root ++ List.replicate (slashesAtEnd root) '/' = root := by
  have hmem : ∀ c ∈ root.rtakeWhile (· == '/'), c = '/' := fun c hc => by
    simpa using List.mem_rtakeWhile_imp hc
  have hslashes : root.rtakeWhile (· == '/') = List.replicate (slashesAtEnd root) '/' :=
    List.eq_replicate_of_mem hmem
  rw [← hslashes]
  exact List.rdropWhile_append_rtakeWhile

/-- What is left of a root does not end in a slash. -/
lemma getLast?_trimSlashes (root : List Char) : (trimSlashes root).getLast? ≠ some '/' := by
  intro hlast
  obtain ⟨hne, hc⟩ := List.mem_getLast?_eq_getLast hlast
  exact List.rdropWhile_last_not _ root hne (beq_iff_eq.mpr hc.symm)

/-- The name of a source behind a root has one slash between them. -/
lemma toList_qualify {root : String} (h : root ≠ "") (source : String) :
    (qualify (some root) source).toList = trimSlashes root.toList ++ '/' :: source.toList := by
  have hempty : root.isEmpty = false := by simpa using h
  simp [qualify, hempty]

/-- The name of a source behind a root that is kept as it is. A slash goes between them unless the
root ends in one. -/
def behindRoot (root source : String) : String :=
  if root.toList.getLast? = some '/' then root ++ source else root ++ "/" ++ source

/-- Behind a root that is kept as it is, all the slashes at its end are there, and at least one. -/
lemma toList_behindRoot (root source : String) :
    (behindRoot root source).toList =
      trimSlashes root.toList ++ List.replicate (max (slashesAtEnd root.toList) 1) '/' ++
        source.toList := by
  have hroot := trimSlashes_append root.toList
  cases hn : slashesAtEnd root.toList with
  | zero =>
    rw [hn, List.replicate_zero, List.append_nil] at hroot
    have hlast : root.toList.getLast? ≠ some '/' := hroot ▸ getLast?_trimSlashes root.toList
    rw [behindRoot, if_neg hlast, hroot]
    simp
  | succ n =>
    have hmax : max (n + 1) 1 = n + 1 := by omega
    have hlast : root.toList.getLast? = some '/' := by
      rw [← hroot, hn, List.replicate_succ', ← List.append_assoc, List.getLast?_concat]
    rw [behindRoot, if_pos hlast, String.toList_append, hmax, ← hn, hroot]

/-! ### What is looked up -/

/-- The source of a place that is looked up is one of the map, behind the root. -/
lemma exists_source_of_lookup? {m : SourceMap} {line column : ℕ} {position : Position}
    (h : m.lookup? line column = .ok position) :
    ∃ source, m.sources[position.sourceIndex]? = some source ∧
      position.source = qualify m.sourceRoot source := by
  rw [lookup?] at h
  split at h
  · cases h
  · split at h
    · cases h
    · split at h
      · cases h
      · split at h
        · cases h
        · next source hsource =>
          cases h
          exact ⟨source, hsource, rfl⟩

/-- **The root in front of a source.** A place that is looked up in a map with a root has the name
of its source behind what is left of the root without the slashes at its end, and behind one slash.
This is the name behind the root as it is exactly if the root ends in one slash or in none. The root
stands in front of it as it is only then, or if the name starts with the slashes that are lost. -/
theorem lookup?_source_behindRoot {m : SourceMap} {root : String} {line column : ℕ}
    {position : Position} (hroot : m.sourceRoot = some root) (hne : root ≠ "")
    (h : m.lookup? line column = .ok position) :
    ∃ source, m.sources[position.sourceIndex]? = some source ∧
      position.source.toList = trimSlashes root.toList ++ '/' :: source.toList ∧
      (position.source = behindRoot root source ↔ slashesAtEnd root.toList ≤ 1) ∧
      (root.toList <+: position.source.toList ↔
        List.replicate (slashesAtEnd root.toList - 1) '/' <+: source.toList) := by
  obtain ⟨source, hsource, hname⟩ := exists_source_of_lookup? h
  have hposition : position.source.toList = trimSlashes root.toList ++ '/' :: source.toList := by
    rw [hname, hroot, toList_qualify hne]
  have hbehind := toList_behindRoot root source
  refine ⟨source, hsource, hposition, ⟨fun heq => ?_, fun hn => ?_⟩, ?_⟩
  · -- one slash stands where the root has all of its own
    have hlength := congrArg (fun name : String => name.toList.length) heq
    simp only [hposition, hbehind, List.length_append, List.length_cons,
      List.length_replicate] at hlength
    omega
  · have hmax : max (slashesAtEnd root.toList) 1 = 1 := by omega
    apply String.toList_inj.mp
    rw [hposition, hbehind, hmax]
    simp
  · have hcut : root.toList <+: trimSlashes root.toList ++ '/' :: source.toList ↔
        List.replicate (slashesAtEnd root.toList) '/' <+: '/' :: source.toList := by
      conv_rhs => rw [← List.prefix_append_right_inj (trimSlashes root.toList), trimSlashes_append]
    rw [hposition, hcut]
    cases slashesAtEnd root.toList with
    | zero => simp
    | succ n =>
      rw [List.replicate_succ, List.cons_prefix_cons]
      simp

/-- A map with a root, which gives a source for the start of its first line. -/
def rootedData (root : String) : Bytes :=
  Utf8.ofString
    ("\x7b\"version\":3,\"sourceRoot\":\"" ++ root ++
      "\",\"sources\":[\"a.ts\"],\"mappings\":\"AAAA\"\x7d")

/-- The map of `rootedData`. -/
def rootedMap (root : String) : SourceMap :=
  ⟨3, none, some root, ["a.ts"], [], [], ⟨[⟨0, 0, some ⟨0, 0, 0⟩, none⟩]⟩⟩

/-- A root that ends in one slash stands as it is in front of the name. -/
theorem rootedMap_behindRoot :
    parse? (rootedData "src/") = .ok (rootedMap "src/") ∧
      (rootedMap "src/").lookup? 1 0 = .ok ⟨"src/a.ts", 0, 1, 0, none⟩ ∧
      "src/a.ts" = behindRoot "src/" "a.ts" := by
  have hparse : parse? (rootedData "src/") = .ok (rootedMap "src/") := by cbv
  have hlookup : (rootedMap "src/").lookup? 1 0 = .ok ⟨"src/a.ts", 0, 1, 0, none⟩ := by cbv
  obtain ⟨source, hsource, -, hiff, -⟩ := lookup?_source_behindRoot rfl (by decide) hlookup
  have hname : "a.ts" = source := Option.some.inj hsource
  refine ⟨hparse, hlookup, ?_⟩
  rw [hname]
  exact hiff.mpr (by decide)

/-- All slashes but one are lost at the end of a root. -/
theorem slashes_lost :
    parse? (rootedData "webpack:///") = .ok (rootedMap "webpack:///") ∧
      (rootedMap "webpack:///").lookup? 1 0 = .ok ⟨"webpack:/a.ts", 0, 1, 0, none⟩ ∧
      behindRoot "webpack:///" "a.ts" = "webpack:///a.ts" ∧
      ¬ "webpack:///".toList <+: "webpack:/a.ts".toList := by
  refine ⟨by cbv, by cbv, by decide +kernel, by decide +kernel⟩

end SourceMap

end Retrace
