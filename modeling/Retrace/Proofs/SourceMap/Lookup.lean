import Mathlib
import Retrace.Proofs.SourceMap.Order
import Retrace.SourceMap.Basic

/-!
# Looking a place up

What `SourceMap.lookup?` answers, told from the text of the map on.  The text of the mappings stands
in the JSON text of the map (`mappingsText`), and `Mappings.written` lists its segments as they are
written.  `Answers` says for such a list what the answer at a line and a column is: the segment that
decides is the nearest one, and the answer depends on whether there is one, whether it came from a
source, and whether the map knows this source.

`lookup?_eq_iff_answers` says that these are the answers of every map that can be read, as long as
its generated lines can be told apart.
-/

namespace Retrace

namespace SourceMap

open Mappings

/-- The text of the mappings in the bytes of a map. -/
def mappingsText (data : Bytes) : List Char :=
  match Json.read format.reader (dropGuard data) with
  | .ok raw => raw.mappings.toList
  | .error _ => []

/-- The mappings of a map are read from the text in its bytes. -/
lemma decode?_mappingsText {data : Bytes} {m : SourceMap} (h : parse? data = .ok m) :
    Mappings.decode? (mappingsText data) = .ok m.mappings := by
  rw [parse?] at h
  split at h
  · simp at h
  · next raw hraw =>
    have htext : mappingsText data = raw.mappings.toList := by
      rw [mappingsText, hraw]
    split at h
    · simp at h
    · split at h
      · simp at h
      · next mappings hmappings =>
        simp only [Except.ok.injEq] at h
        subst h
        rw [htext]
        exact hmappings

/-- The answers of a map at a line, from one, and a column, where `segments` are those that its
text writes. -/
inductive Answers (m : SourceMap) (segments : List Segment) (line column : ℕ) :
    Except LookupError Position → Prop
  /-- Lines count from one. -/
  | lineZero (hline : line = 0) : Answers m segments line column (.error (.noMapping line column))
  /-- Every segment is after the place. -/
  | nothingBefore (hline : 0 < line)
      (hafter : ∀ s ∈ segments, toLex (line - 1, column) < s.place) :
      Answers m segments line column (.error (.noMapping line column))
  /-- The nearest segment came from no source. -/
  | unmapped {s : Segment} (hline : 0 < line)
      (hs : IsNearest segments (toLex (line - 1, column)) s) (horigin : s.origin = none) :
      Answers m segments line column (.error (.noMapping line column))
  /-- The nearest segment came from a source that the map does not have. -/
  | unknownSource {s : Segment} {origin : Origin} (hline : 0 < line)
      (hs : IsNearest segments (toLex (line - 1, column)) s) (horigin : s.origin = some origin)
      (hsource : m.sources.length ≤ origin.source) :
      Answers m segments line column (.error (.unknownSource origin.source))
  /-- The nearest segment came from a source of the map. -/
  | found {s : Segment} {origin : Origin} {source : String} (hline : 0 < line)
      (hs : IsNearest segments (toLex (line - 1, column)) s) (horigin : s.origin = some origin)
      (hsource : m.sources[origin.source]? = some source) :
      Answers m segments line column (.ok {
        source := qualify m.sourceRoot source
        sourceIndex := origin.source
        line := origin.line + 1
        column := origin.column
        name := s.name.bind fun i => m.names[i]? })

/-- What is looked up is one of the answers. -/
lemma answers_lookup? {m : SourceMap} {segments : List Segment}
    (hm : m.mappings.segments = sortByPlace segments) (line column : ℕ) :
    Answers m segments line column (m.lookup? line column) := by
  rw [lookup?]
  split
  · next hline => exact .lineZero hline
  · next hline =>
    have hpos : 0 < line := Nat.pos_of_ne_zero hline
    split
    · next hnone => exact .nothingBefore hpos ((find?_eq_none_iff hm).mp hnone)
    · next s hsome =>
      have hs : IsNearest segments (toLex (line - 1, column)) s :=
        (find?_eq_some_iff_isNearest hm).mp hsome
      split
      · next horigin => exact .unmapped hpos hs horigin
      · next origin horigin =>
        split
        · next hsource =>
          exact .unknownSource hpos hs horigin (List.getElem?_eq_none_iff.mp hsource)
        · next source hsource => exact .found hpos hs horigin hsource

/-- Whatever the segments give as the answer is looked up. -/
lemma lookup?_eq_of_answers {m : SourceMap} {segments : List Segment}
    (hm : m.mappings.segments = sortByPlace segments) {line column : ℕ}
    {r : Except LookupError Position} (h : Answers m segments line column r) :
    m.lookup? line column = r := by
  -- Past line zero the segment that is found decides, and it is the nearest one.
  have hfind : ∀ {s : Segment}, IsNearest segments (toLex (line - 1, column)) s →
      m.mappings.find? (line - 1) column = some s :=
    fun hs => (find?_eq_some_iff_isNearest hm).mpr hs
  cases h with
  | lineZero hline => rw [lookup?, if_pos hline]
  | nothingBefore hline hafter =>
    rw [lookup?, if_neg hline.ne', (find?_eq_none_iff hm).mpr hafter]
  | unmapped hline hs horigin =>
    rw [lookup?, if_neg hline.ne', hfind hs]
    simp only [horigin]
  | unknownSource hline hs horigin hsource =>
    rw [lookup?, if_neg hline.ne', hfind hs]
    simp only [horigin, List.getElem?_eq_none hsource]
  | found hline hs horigin hsource =>
    rw [lookup?, if_neg hline.ne', hfind hs]
    simp only [horigin, hsource]

/-- **Looking a place up.**  For every map that can be read, the answer at a line and a column is
the one that the segments give in the order in which the text writes them, and no other. -/
theorem lookup?_eq_iff_answers {data : Bytes} {m : SourceMap} (h : parse? data = .ok m)
    (hlimit : (Text.splitOn ';' (mappingsText data)).length ≤ lineLimit) (line column : ℕ)
    (r : Except LookupError Position) :
    m.lookup? line column = r ↔ Answers m (written (mappingsText data)) line column r := by
  have hm : m.mappings.segments = sortByPlace (written (mappingsText data)) :=
    segments_eq_sortByPlace hlimit (decode?_mappingsText h)
  constructor
  · rintro rfl
    exact answers_lookup? hm line column
  · exact lookup?_eq_of_answers hm

/-- A map whose first line has its segments out of order, two of them at one column, and whose
second line is empty. -/
def tangledData : Bytes :=
  Utf8.ofString
    "\x7b\"version\":3,\"sources\":[\"a.ts\"],\"names\":[\"f\"],\"mappings\":\"UAAAA,LAAC,KAACA;;A\"\x7d"

/-- The map of `tangledData`. -/
def tangledMap : SourceMap :=
  ⟨3, none, none, ["a.ts"], [], ["f"],
    ⟨[⟨0, 5, some ⟨0, 0, 1⟩, none⟩, ⟨0, 10, some ⟨0, 0, 0⟩, some 0⟩,
      ⟨0, 10, some ⟨0, 0, 2⟩, some 0⟩, ⟨2, 0, none, none⟩]⟩⟩

/-- On the empty line the last of the two segments that share a column decides. -/
theorem tangledMap_answers :
    parse? tangledData = .ok tangledMap ∧
      Answers tangledMap (written (mappingsText tangledData)) 2 7
        (.ok ⟨"a.ts", 0, 1, 2, some "f"⟩) := by
  have hparse : parse? tangledData = .ok tangledMap := by cbv
  have hlimit : (Text.splitOn ';' (mappingsText tangledData)).length ≤ lineLimit := by
    have hlength : (Text.splitOn ';' (mappingsText tangledData)).length = 3 := by cbv
    rw [hlength]
    decide
  refine ⟨hparse, (lookup?_eq_iff_answers hparse hlimit 2 7 _).mp ?_⟩
  decide

end SourceMap

end Retrace
