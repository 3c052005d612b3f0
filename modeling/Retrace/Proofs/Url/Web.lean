import Mathlib
import Retrace.Proofs.Url.Authority
import Retrace.Proofs.Url.Scheme

/-!
# URLs of the web read back

Whatever a URL of the web was read from, its text is read as the same URL (`parse?_text`). For all
its parts are in the form that reading gives them (`Canonical`): escapes stay as they are, no
segment of the path is a dot or two, and nothing in a part ends it.

A URL of the web is in this form when it was read by itself, and also when it was read relative to
one that is (`canonical_of_read?`).
-/

namespace Retrace

namespace Url

variable {scheme text rest segment reference : List Char} {above list : List (List Char)}
  {base : Option Url} {u : Url} {c : Char}

/-! ### Paths -/

/-- A segment that the path of a URL of the web may have. -/
structure IsSegment (segment : List Char) : Prop where
  plain : ∀ c ∈ segment, plainInPath c ∧ isSlash .web c = false
  not_parent : isParent segment = false
  not_current : isCurrent segment = false

/-- The segments that the path of a URL of the web may have. -/
def AreSegments (list : List (List Char)) : Prop :=
  ∀ segment ∈ list, IsSegment segment

/-- An empty segment may stand in a path. -/
lemma isSegment_nil : IsSegment [] where
  plain := by simp
  not_parent := by decide
  not_current := by decide

/-- What stands in a path unescaped does not end it. -/
lemma not_endsPath_of_plainInPath (h : plainInPath c) : endsPath c = false := by
  have hne : ∀ d, plainInPath d = false → c ≠ d := fun d hd =>
    ne_of_apply_ne plainInPath (by simp [h, hd])
  simp [endsPath, hne '?' (by decide), hne '#' (by decide)]

/-- A text without slashes is still one when it is escaped. -/
lemma plain_of_mem_encodeText (htext : ∀ c ∈ text, isSlash .web c = false)
    (hc : c ∈ Percent.encodeText plainInPath text) : plainInPath c ∧ isSlash .web c = false := by
  refine ⟨isPlainClass_path.of_encodeText hc, ?_⟩
  rcases Percent.mem_encodeText hc with ⟨hmem, -⟩ | hsign
  · exact htext c hmem
  · have hall : ∀ d ∈ Percent.escapeSigns, (!isSlash .web d) = true :=
      List.all_eq_true.mp (by decide)
    simpa using hall c hsign

/-- Closing a path with an empty segment keeps to segments. -/
lemma AreSegments.closed (h : AreSegments above) (last : Bool) : AreSegments (closed last above) := by
  unfold Url.closed
  split
  · exact List.forall_mem_cons.mpr ⟨isSegment_nil, h⟩
  · exact h

/-- So does going up from the last segment. -/
lemma AreSegments.dropSegment (h : AreSegments above) : AreSegments (dropSegment above) := by
  unfold Url.dropSegment
  split
  · exact h
  · split
    · exact h
    · exact (List.forall_mem_cons.mp h).2

/-- Putting a segment below others keeps to segments, and leaves one at the end. -/
lemma AreSegments.addSegment (h : AreSegments above)
    (hsegment : ∀ c ∈ segment, plainInPath c ∧ isSlash .web c = false) (last : Bool) :
    AreSegments (addSegment .web above [] segment last) ∧
      (last = true → addSegment .web above [] segment last ≠ []) := by
  unfold Url.addSegment
  split
  · exact ⟨h.dropSegment.closed last, by rintro rfl; simp [Url.closed]⟩
  · next hparent =>
    split
    · exact ⟨h.closed last, by rintro rfl; simp [Url.closed]⟩
    · next hcurrent =>
      rw [Bool.not_eq_true] at hparent hcurrent
      exact ⟨List.forall_mem_cons.mpr ⟨⟨hsegment, hparent, hcurrent⟩, h⟩, fun _ => by simp⟩

/-- Reading segments below others keeps to segments, and gives one at least. -/
lemma AreSegments.addSegments (h : AreSegments above)
    (hsegment : ∀ c ∈ segment, isSlash .web c = false) (text : List Char) :
    AreSegments (addSegments .web above [] segment text) ∧
      addSegments .web above [] segment text ≠ [] := by
  have hplain : ∀ {segment : List Char}, (∀ c ∈ segment, isSlash .web c = false) →
      ∀ c ∈ Percent.encodeText plainInPath segment.reverse,
        plainInPath c ∧ isSlash .web c = false := fun hsegment _ hc =>
    plain_of_mem_encodeText (fun d hd => hsegment d (List.mem_reverse.mp hd)) hc
  induction text generalizing above segment with
  | nil =>
    have hadd := h.addSegment (hplain hsegment) true
    exact ⟨hadd.1, hadd.2 rfl⟩
  | cons c text ih =>
    rw [Url.addSegments]
    split
    · exact ih (h.addSegment (hplain hsegment) false).1 (by simp)
    · next hc =>
      rw [Bool.not_eq_true] at hc
      exact ih h (List.forall_mem_cons.mpr ⟨hc, hsegment⟩)

/-- Reading a path below segments keeps to segments, and gives one at least. -/
lemma AreSegments.readPath (h : AreSegments above) (text : List Char) :
    AreSegments (readPath .web above text).1 ∧ (readPath .web above text).1 ≠ [] := by
  have hempty : ∀ c ∈ ([] : List Char), isSlash .web c = false := by simp
  have hadd := h.addSegments hempty (text.takeWhile fun c => !endsPath c)
  unfold Url.readPath readSegments
  constructor
  · exact fun segment hsegment => hadd.1 segment (List.mem_reverse.mp hsegment)
  · simpa using hadd.2

/-- The path after an authority has segments that it may have, at least one. -/
lemma areSegments_pathAfterAuthority (text : List Char) :
    AreSegments (pathAfterAuthority .web text).1 ∧ (pathAfterAuthority .web text).1 ≠ [] := by
  have hnil : AreSegments [] := by simp [AreSegments]
  have hempty : AreSegments [[]] := List.forall_mem_singleton.mpr isSegment_nil
  unfold pathAfterAuthority
  split
  · exact ⟨hempty, List.cons_ne_nil _ _⟩
  · split
    · exact hnil.readPath _
    · split
      · exact ⟨hempty, List.cons_ne_nil _ _⟩
      · exact hnil.readPath _

/-- A segment that may stand in a path is put below the others as it is. -/
lemma addSegment_eq_cons (h : IsSegment segment) (above : List (List Char)) (last : Bool) :
    addSegment .web above [] segment last = segment :: above := by
  unfold addSegment
  rw [h.not_parent, h.not_current]
  rfl

/-- The characters of a segment are gathered up to the next slash. -/
lemma addSegments_append (hsegment : ∀ c ∈ segment, isSlash .web c = false)
    (above : List (List Char)) (before text : List Char) :
    addSegments .web above [] before (segment ++ text) =
      addSegments .web above [] (segment.reverse ++ before) text := by
  induction segment generalizing before with
  | nil => rfl
  | cons c segment ih =>
    obtain ⟨hc, hsegment⟩ := List.forall_mem_cons.mp hsegment
    rw [List.cons_append, addSegments, hc, if_neg Bool.false_ne_true, ih hsegment]
    simp

/-- The text of segments is read as the segments. -/
lemma addSegments_text (hsegment : IsSegment segment) (hlist : AreSegments list)
    (above : List (List Char)) :
    addSegments .web above [] [] (segment ++ (Path.segments list).text) =
      list.reverse ++ segment :: above := by
  have hencode : ∀ {segment : List Char}, IsSegment segment →
      Percent.encodeText plainInPath segment = segment := fun h =>
    isPlainClass_path.encodeText_eq fun c hc => (h.plain c hc).1
  rw [addSegments_append (fun c hc => (hsegment.plain c hc).2), List.append_nil]
  induction list generalizing segment above with
  | nil =>
    rw [Path.text, List.flatMap_nil, addSegments, List.reverse_reverse, hencode hsegment,
      addSegment_eq_cons hsegment]
    rfl
  | cons next list ih =>
    obtain ⟨hnext, hlist⟩ := List.forall_mem_cons.mp hlist
    have htext : (Path.segments (next :: list)).text = '/' :: (next ++ (Path.segments list).text) :=
      rfl
    rw [htext, addSegments, if_pos (by decide), List.reverse_reverse, hencode hsegment,
      addSegment_eq_cons hsegment, addSegments_append (fun c hc => (hnext.plain c hc).2),
      List.append_nil, ih hnext hlist]
    simp

/-- The characters of the text of a path. -/
lemma AreSegments.mem_text (h : AreSegments list) (hc : c ∈ (Path.segments list).text) :
    0x20 < c.toNat ∧ endsPath c = false := by
  obtain ⟨segment, hsegment, hc⟩ := List.mem_flatMap.mp hc
  rcases List.mem_cons.mp hc with rfl | hc
  · decide
  · have hplain := ((h segment hsegment).plain c hc).1
    exact ⟨(isPlainClass_path.visible c hplain).1, not_endsPath_of_plainInPath hplain⟩

/-- What comes after a path: nothing, a query or a fragment. -/
def EndsPath (rest : List Char) : Prop :=
  ∀ c ∈ rest.head?, endsPath c

/-- The text of a path after an authority is read as the path. -/
lemma pathAfterAuthority_text (hne : list ≠ []) (hlist : AreSegments list) (hrest : EndsPath rest) :
    pathAfterAuthority .web ((Path.segments list).text ++ rest) = (list, rest) := by
  obtain ⟨segment, others, rfl⟩ := List.exists_cons_of_ne_nil hne
  obtain ⟨hsegment, hothers⟩ := List.forall_mem_cons.mp hlist
  have htext : (Path.segments (segment :: others)).text =
      '/' :: (segment ++ (Path.segments others).text) := rfl
  have hpath : ∀ c ∈ segment ++ (Path.segments others).text, (!endsPath c) = true := by
    intro c hc
    have hmem := hlist.mem_text (htext ▸ List.mem_cons_of_mem '/' hc)
    rw [hmem.2]
    rfl
  have hstop : rest.takeWhile (fun c => !endsPath c) = [] ∧
      rest.dropWhile (fun c => !endsPath c) = rest := by
    cases rest with
    | nil => exact ⟨rfl, rfl⟩
    | cons c rest =>
      have hc : endsPath c = true := hrest c rfl
      rw [List.takeWhile_cons, List.dropWhile_cons, hc]
      exact ⟨rfl, rfl⟩
  rw [htext, List.cons_append, pathAfterAuthority, if_pos (by decide), readPath, readSegments,
    List.takeWhile_append_of_pos hpath, List.dropWhile_append_of_pos hpath, hstop.1, hstop.2,
    List.append_nil, addSegments_text hsegment hothers]
  simp

/-! ### Queries and fragments -/

/-- What a query and a fragment may have. -/
structure AreMarked (query fragment : Option (List Char)) : Prop where
  query : ∀ text ∈ query, ∀ c ∈ text, plainInQuery .web c
  fragment : ∀ text ∈ fragment, ∀ c ∈ text, plainInFragment c

/-- A fragment that is read is escaped. -/
lemma plain_readFragment (text : List Char) :
    ∀ fragment ∈ readFragment text, ∀ c ∈ fragment, plainInFragment c := by
  unfold readFragment
  split
  · simp
  · rintro fragment ⟨⟩ c hc
    exact isPlainClass_fragment.of_encodeText hc

/-- A query and a fragment that are read are escaped. -/
lemma areMarked_readQuery (text : List Char) :
    AreMarked (readQuery .web text).1 (readQuery .web text).2 := by
  unfold readQuery
  split
  · refine ⟨?_, plain_readFragment _⟩
    rintro query ⟨⟩ c hc
    exact isPlainClass_query.of_encodeText hc
  · exact ⟨by simp, plain_readFragment _⟩

/-- The text of a query and a fragment is read as the two. -/
lemma readQuery_text {query fragment : Option (List Char)} (h : AreMarked query fragment) :
    readQuery .web (marked '?' query ++ marked '#' fragment) = (query, fragment) := by
  have hfragment : readFragment (marked '#' fragment) = fragment := by
    cases fragment with
    | none => rfl
    | some text =>
      rw [marked, readFragment, isPlainClass_fragment.encodeText_eq (h.fragment text rfl)]
  cases query with
  | none =>
    cases fragment with
    | none => rfl
    | some text => exact Prod.ext rfl hfragment
  | some text =>
    have hplain := h.query text rfl
    have hpos : ∀ c ∈ text, decide (c ≠ '#') = true := by
      intro c hc
      apply decide_eq_true
      rintro rfl
      exact absurd (hplain '#' hc) (by decide)
    have hstop : (marked '#' fragment).takeWhile (· ≠ '#') = [] ∧
        (marked '#' fragment).dropWhile (· ≠ '#') = marked '#' fragment := by
      cases fragment with
      | none => exact ⟨rfl, rfl⟩
      | some text => exact ⟨rfl, rfl⟩
    rw [marked, List.cons_append, readQuery, List.takeWhile_append_of_pos hpos,
      List.dropWhile_append_of_pos hpos, hstop.1, hstop.2, List.append_nil,
      isPlainClass_query.encodeText_eq hplain, hfragment]

/-- The text of a query and a fragment ends the path in front of it. -/
lemma endsPath_marked (query fragment : Option (List Char)) :
    EndsPath (marked '?' query ++ marked '#' fragment) := by
  cases query with
  | some text =>
    rintro c ⟨⟩
    decide
  | none =>
    cases fragment with
    | some text =>
      rintro c ⟨⟩
      decide
    | none => simp [EndsPath, marked]

/-! ### URLs -/

/-- A URL of the web in the form that reading gives it. -/
structure Canonical (u : Url) : Prop where
  kind : Kind.ofScheme u.scheme = .web
  authority : ∃ a, u.authority = some a ∧ a.IsSound u.scheme
  path : ∃ list, u.path = .segments list ∧ list ≠ [] ∧ AreSegments list
  marks : AreMarked u.query u.fragment

/-- The schemes of the web are in lower case. -/
lemma isScheme_of_web (h : Kind.ofScheme scheme = .web) :
    IsScheme scheme ∧ scheme.map Char.toLower = scheme := by
  have hall : ∀ s ∈ ["http".toList, "ws".toList, "https".toList, "wss".toList, "ftp".toList],
      ((s.head?.map Char.isAlpha).getD false && s.all inScheme && s.map Char.toLower = s) = true :=
    List.all_eq_true.mp (by decide)
  have hport : (defaultPort scheme).isSome = true := by
    unfold Kind.ofScheme at h
    split at h
    · cases h
    · split at h
      · assumption
      · cases h
  have hmem : scheme ∈ ["http".toList, "ws".toList, "https".toList, "wss".toList, "ftp".toList] := by
    unfold defaultPort at hport
    split at hport
    · next hscheme =>
      simp only [Bool.or_eq_true, decide_eq_true_eq] at hscheme
      rcases hscheme with rfl | rfl <;> simp
    · split at hport
      · next hscheme =>
        simp only [Bool.or_eq_true, decide_eq_true_eq] at hscheme
        rcases hscheme with rfl | rfl <;> simp
      · split at hport
        · next hscheme => simp [hscheme]
        · cases hport
  have hscheme := hall scheme hmem
  simp only [Bool.and_eq_true, decide_eq_true_eq] at hscheme
  obtain ⟨⟨hhead, hchars⟩, hlower⟩ := hscheme
  refine ⟨⟨?_, List.all_eq_true.mp hchars⟩, hlower⟩
  cases scheme with
  | nil => cases hhead
  | cons c scheme => exact ⟨c, rfl, hhead⟩

/-- A URL of the web is canonical if its authority and its path are. -/
lemma Canonical.finish (hkind : Kind.ofScheme scheme = .web) {a : Authority}
    (ha : a.IsSound scheme) (hne : list ≠ []) (hlist : AreSegments list) (text : List Char) :
    Canonical (finish scheme (some a) (.segments list) text) where
  kind := hkind
  authority := ⟨a, rfl, ha⟩
  path := ⟨list, rfl, hne, hlist⟩
  marks := by
    unfold Url.finish
    rw [hkind]
    exact areMarked_readQuery text

/-- A canonical URL stays so with another fragment. -/
lemma Canonical.withFragment (h : Canonical u) {fragment : Option (List Char)}
    (hfragment : ∀ text ∈ fragment, ∀ c ∈ text, plainInFragment c) :
    Canonical { u with fragment := fragment } :=
  { h with marks := ⟨h.marks.query, hfragment⟩ }

/-- What is read behind the two slashes of a URL of the web is canonical. -/
lemma canonical_of_afterSlashes? (hkind : Kind.ofScheme scheme = .web)
    (h : afterSlashes? scheme text = .ok u) : Canonical u := by
  obtain ⟨a, rest, ha, rfl⟩ := isSound_of_afterSlashes? hkind h
  obtain ⟨hlist, hne⟩ := areSegments_pathAfterAuthority rest
  exact Canonical.finish hkind ha hne hlist _

/-- What is read relative to a URL of the web is one. -/
lemma Canonical.relative? {b : Url} (hb : Canonical b) (h : relative? b text = .ok u) :
    Canonical u := by
  obtain ⟨scheme, authority, path, query, fragment⟩ := b
  obtain ⟨a, rfl, ha⟩ := hb.authority
  obtain ⟨list, rfl, hne, hlist⟩ := hb.path
  have hkind : Kind.ofScheme scheme = .web := hb.kind
  have hnil : AreSegments [] := by simp [AreSegments]
  unfold Url.relative? at h
  simp only [hkind] at h
  split at h
  · cases h
    have hnone : ∀ text ∈ (none : Option (List Char)), ∀ c ∈ text, plainInFragment c := by simp
    exact hb.withFragment hnone
  · split at h
    · cases h
      exact Canonical.finish hkind ha hne hlist _
    · split at h
      · cases h
        exact hb.withFragment (plain_readFragment _)
      · split at h
        · split at h
          · split at h
            · exact canonical_of_afterSlashes? hkind h
            · exact canonical_of_afterSlashes? hkind h
          · cases h
            obtain ⟨hlist, hne⟩ := hnil.readPath _
            exact Canonical.finish hkind ha hne hlist _
        · cases h
          have habove : AreSegments (list.reverse.drop 1) := fun segment hsegment =>
            hlist segment (List.mem_reverse.mp (List.mem_of_mem_drop hsegment))
          obtain ⟨hlist, hne⟩ := habove.readPath _
          exact Canonical.finish hkind ha hne hlist _

/-- What is read behind a scheme of the web is canonical, if the base is. -/
lemma canonical_of_afterScheme?
    (hbase : ∀ b ∈ base, Kind.ofScheme b.scheme = .web → Canonical b)
    (hkind : Kind.ofScheme scheme = .web) (h : afterScheme? base scheme text = .ok u) :
    Canonical u := by
  unfold afterScheme? at h
  simp only [hkind] at h
  split at h
  · next b =>
    split at h
    · next hsame =>
      simp only [Bool.and_eq_true, decide_eq_true_eq] at hsame
      exact (hbase b rfl (hsame.2 ▸ hkind)).relative? h
    · exact canonical_of_afterSlashes? hkind h
  · exact canonical_of_afterSlashes? hkind h

/-- **URLs of the web are canonical.** What is read is a canonical URL if it is a URL of the web, by
itself or relative to a canonical one. -/
theorem canonical_of_read? (hbase : ∀ b ∈ base, Kind.ofScheme b.scheme = .web → Canonical b)
    (h : read? base reference = .ok u) (hkind : Kind.ofScheme u.scheme = .web) : Canonical u := by
  have hscheme := scheme_of_read? h
  unfold read? at h
  dsimp only at h
  split at h
  · next scheme rest hread =>
    have heq : u.scheme = scheme := scheme_of_afterScheme? h
    exact canonical_of_afterScheme? hbase (heq ▸ hkind) h
  · next hread =>
    split at h
    · cases h
    · next b =>
      have heq : u.scheme = b.scheme := by
        rcases hscheme with hsome | ⟨-, c, hc, heq⟩
        · rw [schemeOf?_eq_none_iff.mpr hread] at hsome
          cases hsome
        · cases hc
          exact heq
      have hb := hbase b rfl (heq ▸ hkind)
      split at h
      · cases h
        exact hb.withFragment (plain_readFragment _)
      · split at h
        · cases h
        · rw [heq] at hkind
          rw [hkind] at h
          exact hb.relative? h

/-- What comes after the authority in the text of a URL. -/
def tailText (u : Url) : List Char :=
  u.path.text ++ (marked '?' u.query ++ marked '#' u.fragment)

/-- The text of a URL of the web, part by part. -/
lemma text_eq_parts {a : Authority} (hauthority : u.authority = some a)
    (hpath : u.path = .segments list) :
    u.text = u.scheme ++ ':' :: '/' :: '/' :: (a.text ++ u.tailText) := by
  simp [text, tailText, pathGuard, hauthority, hpath]

/-- The text of a query and a fragment has no blank. -/
lemma AreMarked.visible {query fragment : Option (List Char)} (h : AreMarked query fragment)
    (hc : c ∈ marked '?' query ++ marked '#' fragment) : 0x20 < c.toNat := by
  rcases List.mem_append.mp hc with hc | hc
  · cases query with
    | none => cases hc
    | some text =>
      rcases List.mem_cons.mp hc with rfl | hc
      · decide
      · exact (isPlainClass_query.visible c (h.query text rfl c hc)).1
  · cases fragment with
    | none => cases hc
    | some text =>
      rcases List.mem_cons.mp hc with rfl | hc
      · decide
      · exact (isPlainClass_fragment.visible c (h.fragment text rfl c hc)).1

/-- The text behind the authority has no blank. -/
lemma Canonical.visible_tailText (h : Canonical u) (hc : c ∈ u.tailText) : 0x20 < c.toNat := by
  obtain ⟨list, hpath, -, hlist⟩ := h.path
  rw [tailText, hpath] at hc
  rcases List.mem_append.mp hc with hc | hc
  · exact (hlist.mem_text hc).1
  · exact h.marks.visible hc

/-- The characters of a URL of the web. -/
lemma Canonical.visible (h : Canonical u) (hc : c ∈ u.text) : isMargin c = false := by
  obtain ⟨a, hauthority, ha⟩ := h.authority
  obtain ⟨list, hpath, -⟩ := h.path
  have hvisible : 0x20 < c.toNat → isMargin c = false := by simp [isMargin]
  have hcolon : isMargin ':' = false := by decide
  have hslash : isMargin '/' = false := by decide
  rw [text_eq_parts hauthority hpath] at hc
  simp only [List.mem_append, List.mem_cons] at hc
  rcases hc with hc | rfl | rfl | rfl | hc | hc
  · exact not_isMargin_of_inScheme ((isScheme_of_web h.kind).1.all c hc)
  · exact hcolon
  · exact hslash
  · exact hslash
  · rcases ha.mem_text hc with hchar | rfl
    · exact hvisible hchar.visible
    · decide
  · exact hvisible (h.visible_tailText hc)

/-- The text of a URL of the web is not stripped of anything. -/
lemma Canonical.strip_text (h : Canonical u) : strip u.text = u.text := by
  obtain ⟨a, hauthority, -⟩ := h.authority
  obtain ⟨list, hpath, -⟩ := h.path
  have hne : u.text ≠ [] := by
    rw [text_eq_parts hauthority hpath]
    simp
  have happend := strip_append (fun c hc => h.visible hc) hne []
  simpa using happend

/-- The scheme is read off the text of a URL of the web. -/
lemma Canonical.scheme?_text (h : Canonical u) {a : Authority} (ha : u.authority = some a) :
    scheme? u.text = some (u.scheme, '/' :: '/' :: (a.text ++ u.tailText)) := by
  obtain ⟨list, hpath, -⟩ := h.path
  obtain ⟨hscheme, hlower⟩ := isScheme_of_web h.kind
  rw [text_eq_parts ha hpath, scheme?_eq_some_iff]
  exact ⟨u.scheme, hscheme, rfl, hlower.symm⟩

/-- An authority starts with no slash of its own. -/
lemma takeWhile_slashes {a : Authority} (ha : a.IsSound scheme) (rest : List Char) :
    ('/' :: '/' :: (a.text ++ rest)).takeWhile isEitherSlash = ['/', '/'] := by
  obtain ⟨c, others, hcons⟩ := List.exists_cons_of_ne_nil ha.text_ne_nil
  have hc : isEitherSlash c = false := by
    rcases ha.mem_text (hcons ▸ List.mem_cons_self) with hchar | rfl
    · exact hchar.not_slash
    · decide
  rw [hcons, List.takeWhile_cons_of_pos (by decide), List.takeWhile_cons_of_pos (by decide),
    List.cons_append, List.takeWhile_cons_of_neg (by simp [hc])]

/-- **URLs of the web read back.** -/
theorem parse?_text (h : Canonical u) : parse? u.text = .ok u := by
  obtain ⟨a, hauthority, ha⟩ := h.authority
  obtain ⟨list, hpath, hne, hlist⟩ := h.path
  have htail : u.tailText =
      (Path.segments list).text ++ (marked '?' u.query ++ marked '#' u.fragment) := by
    rw [tailText, hpath]
  have hends : EndsAuthority u.tailText := by
    obtain ⟨segment, others, rfl⟩ := List.exists_cons_of_ne_nil hne
    rw [htail]
    rintro c ⟨⟩
    exact .inl (by decide)
  have hpathText := pathAfterAuthority_text hne hlist (endsPath_marked u.query u.fragment)
  have hparse : parse? u.text = .ok (finish u.scheme (some a) (.segments list)
      (marked '?' u.query ++ marked '#' u.fragment)) := by
    unfold parse? read?
    simp only [h.strip_text, h.scheme?_text hauthority, afterScheme?, h.kind, takeWhile_slashes ha,
      List.length_cons, List.length_nil, List.drop_succ_cons, List.drop_zero]
    rw [afterSlashes?_text h.kind ha hends, htail, hpathText]
  rw [hparse, finish, h.kind, readQuery_text h.marks, ← hauthority, ← hpath]

end Url

end Retrace
