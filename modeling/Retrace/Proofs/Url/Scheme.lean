import Mathlib
import Retrace.Url.Parser

/-!
# Schemes

The scheme of a URL is the one that its reference has, or else the one of the URL that the reference
is relative to (`scheme_of_read?`). It is told by the front of the reference alone, up to the
colon, whatever follows; so a text that has a scheme in front of a slash keeps it when what follows
changes (`schemeOf?_of_before_slash`), and the text of a URL has the scheme of the URL
(`schemeOf?_text`).
-/

namespace Retrace

namespace Url

variable {text front rest reference scheme : List Char} {base : Option Url} {u : Url}

/-! ### What a reference is stripped of -/

/-- Whether a character does not belong to a reference at either end. -/
def isMargin (c : Char) : Bool :=
  c.toNat ≤ 0x20

/-- Whether a character within a reference belongs to it. -/
def isKept (c : Char) : Bool :=
  c ≠ '\t' && c ≠ '\n' && c ≠ '\r'

/-- A text without what does not belong to it within it and at its end. -/
def stripEnd (text : List Char) : List Char :=
  ((text.reverse.dropWhile isMargin).reverse).filter isKept

/-- Stripping a text takes its front first and its end then. -/
lemma strip_eq (text : List Char) : strip text = stripEnd (text.dropWhile isMargin) := rfl

/-- Nothing is left of nothing. -/
@[simp] lemma stripEnd_nil : stripEnd [] = [] := rfl

/-- A character that belongs to a reference at its ends belongs to it inside. -/
lemma isKept_of_not_margin {c : Char} (h : isMargin c = false) : isKept c = true := by
  rw [isKept, Bool.and_eq_true, Bool.and_eq_true, decide_eq_true_iff, decide_eq_true_iff,
    decide_eq_true_iff]
  refine ⟨⟨?_, ?_⟩, ?_⟩ <;>
  · rintro rfl
    exact absurd h (by decide)

/-- What comes before a character that belongs to the text is no end of it. -/
lemma stripEnd_append_cons {c : Char} (hc : isMargin c = false) (front rest : List Char) :
    stripEnd (front ++ c :: rest) = front.filter isKept ++ c :: stripEnd rest := by
  have hfront : (front ++ [c]).reverse.dropWhile isMargin = (front ++ [c]).reverse := by
    rw [List.reverse_append, List.reverse_singleton, List.singleton_append,
      List.dropWhile_cons_of_neg (by rw [hc]; decide)]
  have hdrop : ((front ++ c :: rest).reverse.dropWhile isMargin).reverse =
      front ++ c :: (rest.reverse.dropWhile isMargin).reverse := by
    rw [List.append_cons, List.reverse_append, List.dropWhile_append, hfront]
    split
    · next hempty => simp [List.isEmpty_iff.mp hempty]
    · simp
  rw [stripEnd, hdrop, List.filter_append, List.filter_cons_of_pos (isKept_of_not_margin hc),
    stripEnd]

/-- A text that belongs to the reference stays as it is at the front. -/
lemma strip_append (hfront : ∀ c ∈ front, isMargin c = false) (hne : front ≠ [])
    (rest : List Char) : strip (front ++ rest) = front ++ stripEnd rest := by
  have hdrop : (front ++ rest).dropWhile isMargin = front ++ rest := by
    cases front with
    | nil => exact absurd rfl hne
    | cons c front =>
      rw [List.cons_append, List.dropWhile_cons_of_neg]
      rw [hfront c List.mem_cons_self]
      decide
  rw [strip_eq, hdrop]
  obtain ⟨init, last, rfl⟩ := List.eq_nil_or_concat front |>.resolve_left hne
  rw [List.concat_eq_append] at hfront ⊢
  rw [← List.append_cons, stripEnd_append_cons (hfront last (by simp)), List.filter_eq_self.mpr,
    List.append_cons]
  exact fun c hc => isKept_of_not_margin (hfront c (List.mem_append_left _ hc))

/-- A text is a margin and what starts with a character that belongs to it. -/
lemma exists_margin_append (text : List Char) :
    ∃ margin core, text = margin ++ core ∧ (∀ c ∈ margin, isMargin c) ∧
      ∀ c ∈ core.head?, isMargin c = false := by
  refine ⟨text.takeWhile isMargin, text.dropWhile isMargin, List.takeWhile_append_dropWhile.symm,
    fun c hc => List.mem_takeWhile_imp hc, fun c hc => ?_⟩
  have h := List.head?_dropWhile_not isMargin text
  rw [Option.mem_def.mp hc] at h
  exact h

/-- A margin in front is stripped. -/
lemma strip_margin_append {margin core : List Char} (hmargin : ∀ c ∈ margin, isMargin c)
    (hcore : ∀ c ∈ core.head?, isMargin c = false) : strip (margin ++ core) = stripEnd core := by
  rw [strip_eq, List.dropWhile_append_of_pos hmargin]
  cases core with
  | nil => rfl
  | cons c core =>
    rw [List.dropWhile_cons_of_neg]
    rw [hcore c rfl]
    decide

/-! ### The texts that are schemes -/

/-- Whether a character may stand in a scheme. -/
def inScheme (c : Char) : Bool :=
  c.isAlphanum || c = '+' || c = '-' || c = '.'

/-- A text that may be a scheme. -/
structure IsScheme (text : List Char) : Prop where
  head : ∃ c ∈ text.head?, c.isAlpha
  all : ∀ c ∈ text, inScheme c

/-- A scheme has no colon. -/
lemma not_inScheme_colon : inScheme ':' = false := by decide

/-- A scheme has no slash. -/
lemma not_inScheme_slash : inScheme '/' = false := by decide

/-- The characters of a scheme are not stripped. -/
lemma not_isMargin_of_inScheme {c : Char} (h : inScheme c) : isMargin c = false := by
  rw [isMargin, decide_eq_false_iff_not, not_le]
  simp only [inScheme, Char.isAlphanum, Char.isAlpha, Char.isUpper, Char.isLower, Char.isDigit,
    Bool.or_eq_true, Bool.and_eq_true, decide_eq_true_eq, UInt32.le_iff_toNat_le, ge_iff_le] at h
  change (((((65 ≤ c.toNat ∧ c.toNat ≤ 90) ∨ (97 ≤ c.toNat ∧ c.toNat ≤ 122)) ∨
    (48 ≤ c.toNat ∧ c.toNat ≤ 57)) ∨ c = '+') ∨ c = '-') ∨ c = '.' at h
  rcases h with ((h | rfl) | rfl) | rfl
  · omega
  all_goals decide

/-- A scheme is not empty. -/
lemma IsScheme.ne_nil (h : IsScheme text) : text ≠ [] := by
  rintro rfl
  obtain ⟨c, hc, -⟩ := h.head
  cases hc

/-- A scheme in lower case is a scheme. -/
lemma IsScheme.map_toLower (h : IsScheme text) : IsScheme (text.map Char.toLower) := by
  constructor
  · obtain ⟨c, hc, halpha⟩ := h.head
    refine ⟨c.toLower, ?_, ?_⟩
    · rw [List.head?_map, Option.mem_def.mp hc]
      rfl
    · rw [Char.isAlpha_toLower_eq_isAlpha, halpha]
  · rw [List.forall_mem_map]
    intro c hc
    by_cases hupper : c.isUpper
    · simp [inScheme, Char.isAlphanum, Char.isAlpha, hupper]
    · rw [Char.toLower_eq_of_not_isUpper hupper]
      exact h.all c hc

/-- The rest of a scheme goes up to the colon. -/
lemma schemeRest?_eq_some_iff :
    schemeRest? text = some (scheme, rest) ↔
      ∃ raw, (∀ c ∈ raw, inScheme c) ∧ text = raw ++ ':' :: rest ∧
        scheme = raw.map Char.toLower := by
  induction text generalizing scheme with
  | nil => simp [schemeRest?]
  | cons c text ih =>
    rw [schemeRest?]
    split
    · next hcolon =>
      subst hcolon
      constructor
      · intro h
        obtain ⟨rfl, rfl⟩ := Prod.mk.inj (Option.some.inj h)
        exact ⟨[], by simp, rfl, rfl⟩
      · rintro ⟨raw, hraw, htext, rfl⟩
        cases raw with
        | nil => rw [(List.cons.inj htext).2]; rfl
        | cons d raw =>
          have hd := hraw d List.mem_cons_self
          rw [← (List.cons.inj htext).1, not_inScheme_colon] at hd
          cases hd
    · next hcolon =>
      split
      · next hc =>
        rw [Option.map_eq_some_iff]
        constructor
        · rintro ⟨⟨lower, after⟩, hrest, heq⟩
          obtain ⟨rfl, rfl⟩ := Prod.mk.inj heq
          obtain ⟨raw, hraw, rfl, rfl⟩ := ih.mp hrest
          exact ⟨c :: raw, List.forall_mem_cons.mpr ⟨hc, hraw⟩, rfl, rfl⟩
        · rintro ⟨raw, hraw, htext, rfl⟩
          cases raw with
          | nil => exact absurd (List.cons.inj htext).1 hcolon
          | cons d raw =>
            obtain ⟨rfl, rfl⟩ := List.cons.inj htext
            exact ⟨_, ih.mpr ⟨raw, (List.forall_mem_cons.mp hraw).2, rfl, rfl⟩, rfl⟩
      · next hc =>
        constructor
        · intro h
          cases h
        · rintro ⟨raw, hraw, htext, rfl⟩
          cases raw with
          | nil => exact absurd (List.cons.inj htext).1 hcolon
          | cons d raw =>
            exact absurd ((List.cons.inj htext).1 ▸ hraw d List.mem_cons_self) hc

/-- A scheme goes up to the first colon. -/
lemma scheme?_eq_some_iff :
    scheme? text = some (scheme, rest) ↔
      ∃ raw, IsScheme raw ∧ text = raw ++ ':' :: rest ∧ scheme = raw.map Char.toLower := by
  unfold scheme?
  split
  · next c text =>
    split
    · next halpha =>
      rw [schemeRest?_eq_some_iff]
      refine exists_congr fun raw => and_congr_left fun ⟨htext, _⟩ => ?_
      cases raw with
      | nil =>
        rw [(List.cons.inj htext).1] at halpha
        exact absurd halpha (by decide)
      | cons d raw =>
        refine ⟨fun hall => ⟨⟨d, rfl, ?_⟩, hall⟩, IsScheme.all⟩
        rw [← (List.cons.inj htext).1, halpha]
    · next halpha =>
      refine ⟨fun h => (by cases h), ?_⟩
      rintro ⟨raw, hraw, htext, -⟩
      obtain ⟨d, hd, hd'⟩ := hraw.head
      cases raw with
      | nil => cases hd
      | cons e raw =>
        obtain rfl : e = d := Option.some.inj hd
        exact absurd ((List.cons.inj htext).1 ▸ hd') halpha
  · refine ⟨fun h => (by cases h), ?_⟩
    rintro ⟨raw, -, htext, -⟩
    simp at htext

/-! ### The scheme of a reference -/

/-- The scheme of a reference in lower case, if it has one. -/
def schemeOf? (reference : List Char) : Option (List Char) :=
  (scheme? (strip reference)).map Prod.fst

/-- A reference has the scheme that is read at its front once it is stripped. -/
lemma schemeOf?_eq_some_iff :
    schemeOf? reference = some scheme ↔ ∃ rest, scheme? (strip reference) = some (scheme, rest) := by
  rw [schemeOf?, Option.map_eq_some_iff]
  constructor
  · rintro ⟨⟨_, rest⟩, h, rfl⟩
    exact ⟨rest, h⟩
  · rintro ⟨rest, h⟩
    exact ⟨_, h, rfl⟩

/-- A reference has no scheme if none is read there. -/
lemma schemeOf?_eq_none_iff : schemeOf? reference = none ↔ scheme? (strip reference) = none := by
  rw [schemeOf?, Option.map_eq_none_iff]

/-- A scheme and its colon at the front of a text, after which anything may stand. -/
lemma scheme?_strip_append (h : IsScheme scheme) (rest : List Char) :
    scheme? (strip (scheme ++ ':' :: rest)) = some (scheme.map Char.toLower, stripEnd rest) := by
  have hvisible : ∀ c ∈ scheme ++ [':'], isMargin c = false := by
    simp only [List.mem_append, List.mem_singleton, or_imp, forall_and, forall_eq]
    exact ⟨fun c hc => not_isMargin_of_inScheme (h.all c hc), by decide⟩
  rw [List.append_cons, strip_append hvisible (by simp), ← List.append_cons, scheme?_eq_some_iff]
  exact ⟨scheme, h, rfl, rfl⟩

/-- A scheme has no slash, so its colon stands before the first slash. -/
lemma IsScheme.exists_eq_append {raw after : List Char} (h : IsScheme raw)
    (htext : front ++ '/' :: rest = raw ++ ':' :: after) :
    ∃ tail, front = raw ++ ':' :: tail := by
  rcases List.append_eq_append_iff.mp htext with ⟨mid, hmid, htail⟩ | ⟨mid, hmid, htail⟩
  · cases mid with
    | nil => cases (List.cons.inj htail).1
    | cons c mid =>
      obtain ⟨rfl, -⟩ := List.cons.inj htail
      have hc := h.all '/' (by rw [hmid]; simp)
      rw [not_inScheme_slash] at hc
      cases hc
  · cases mid with
    | nil => cases (List.cons.inj htail).1
    | cons c mid =>
      obtain ⟨rfl, -⟩ := List.cons.inj htail
      exact ⟨mid, hmid⟩

/-- A character that is kept divides the text before it from the text after it. -/
lemma exists_eq_append_of_filter {raw tail : List Char} {c : Char}
    (h : text.filter isKept = raw ++ c :: tail) :
    ∃ before after, text = before ++ c :: after ∧ before.filter isKept = raw := by
  obtain ⟨first, second, rfl, hfirst, hsecond⟩ := List.filter_eq_append_iff.mp h
  obtain ⟨skipped, after, rfl, hskipped, -, -⟩ := List.filter_eq_cons_iff.mp hsecond
  have hnone : skipped.filter isKept = [] := List.filter_eq_nil_iff.mpr hskipped
  refine ⟨first ++ skipped, after, (List.append_assoc _ _ _).symm, ?_⟩
  rw [List.filter_append, hfirst, hnone, List.append_nil]

/-- The scheme stays when what follows the first slash changes. -/
lemma schemeOf?_of_before_slash (h : schemeOf? (front ++ '/' :: rest) = some scheme)
    (more : List Char) : schemeOf? (front ++ more) = some scheme := by
  obtain ⟨after, h⟩ := schemeOf?_eq_some_iff.mp h
  obtain ⟨margin, core, rfl, hmargin, hcore⟩ := exists_margin_append front
  have hslash : isMargin '/' = false := by decide
  have hcolon : isMargin ':' = false := by decide
  have hstrip : strip (margin ++ core ++ '/' :: rest) =
      core.filter isKept ++ '/' :: stripEnd rest := by
    rw [List.append_assoc, strip_margin_append hmargin, stripEnd_append_cons hslash]
    cases core with
    | nil => simp [hslash]
    | cons c core => exact hcore
  rw [hstrip, scheme?_eq_some_iff] at h
  obtain ⟨raw, hraw, htext, rfl⟩ := h
  obtain ⟨tail, htail⟩ := hraw.exists_eq_append htext
  obtain ⟨before, behind, rfl, hbefore⟩ := exists_eq_append_of_filter htail
  have hcore' : ∀ c ∈ (before ++ ':' :: (behind ++ more)).head?, isMargin c = false := by
    intro c hc
    rw [List.head?_append] at hc hcore
    exact hcore c hc
  have hstrip' : strip (margin ++ (before ++ ':' :: behind) ++ more) =
      raw ++ ':' :: stripEnd (behind ++ more) := by
    rw [List.append_assoc, List.append_assoc, List.cons_append,
      strip_margin_append hmargin hcore', stripEnd_append_cons hcolon, hbefore]
  rw [schemeOf?_eq_some_iff, hstrip']
  exact ⟨_, scheme?_eq_some_iff.mpr ⟨raw, hraw, rfl, rfl⟩⟩

/-! ### The scheme of a URL -/

/-- Reading the query and the fragment leaves the scheme. -/
@[simp] lemma finish_scheme (authority : Option Authority) (path : Path) :
    (finish scheme authority path text).scheme = scheme := rfl

/-- A URL of a file that depends on no other has the scheme of files. -/
@[simp] lemma freshFile_scheme (above : List (List Char)) :
    (freshFile above text).scheme = fileScheme := rfl

/-- What is read behind two slashes has the scheme in front of them. -/
lemma scheme_of_afterSlashes? (h : afterSlashes? scheme text = .ok u) : u.scheme = scheme := by
  simp only [afterSlashes?, bind, Except.bind, pure, Except.pure, throw, throwThe,
    MonadExceptOf.throw] at h
  repeat' split at h
  all_goals cases h
  rfl

/-- What is read behind the two slashes of a file has the scheme of files. -/
lemma scheme_of_fileAfterSlashes? (h : fileAfterSlashes? text = .ok u) : u.scheme = fileScheme := by
  simp only [fileAfterSlashes?, bind, Except.bind, pure, Except.pure] at h
  repeat' split at h
  all_goals cases h
  all_goals rfl

/-- A path from the root of a file system has the scheme of files. -/
lemma fileFromRoot_scheme : (fileFromRoot base text).scheme = fileScheme := by
  unfold fileFromRoot
  repeat' split
  all_goals rfl

/-- A path beside a file has the scheme of files. -/
lemma fileBeside_scheme (hbase : ∀ b ∈ base, b.scheme = fileScheme) :
    (fileBeside base text).scheme = fileScheme := by
  unfold fileBeside
  split
  · rfl
  · next b =>
    have hb := hbase b rfl
    repeat' split
    all_goals first | rfl | exact hb

/-- Whatever is read of a file has the scheme of files, if the base has it. -/
lemma scheme_of_file? (hbase : ∀ b ∈ base, b.scheme = fileScheme) (h : file? base text = .ok u) :
    u.scheme = fileScheme := by
  unfold file? at h
  split at h
  · split at h
    · next b =>
      cases h
      exact hbase b rfl
    · cases h
      rfl
  · split at h
    · cases h
      exact fileBeside_scheme hbase
    · split at h
      · split at h
        · exact scheme_of_fileAfterSlashes? h
        · cases h
          exact fileFromRoot_scheme
      · cases h
        exact fileFromRoot_scheme

/-- A reference without a scheme takes that of the base. -/
lemma scheme_of_relative? {base : Url} (h : relative? base text = .ok u) :
    u.scheme = base.scheme := by
  unfold relative? at h
  dsimp only at h
  repeat' split at h
  all_goals first | exact scheme_of_afterSlashes? h | (cases h; rfl)

/-- What is read behind a scheme of no special kind has it. -/
lemma scheme_of_other? (h : other? scheme text = .ok u) : u.scheme = scheme := by
  unfold other? at h
  split at h
  · exact scheme_of_afterSlashes? h
  all_goals
    cases h
    rfl

/-- Only one scheme is that of files. -/
lemma eq_fileScheme_of_kind (h : Kind.ofScheme scheme = .file) : scheme = fileScheme := by
  unfold Kind.ofScheme at h
  split at h
  · next hscheme => exact hscheme
  · split at h <;> cases h

/-- What is read behind a scheme has it. -/
lemma scheme_of_afterScheme? (h : afterScheme? base scheme text = .ok u) : u.scheme = scheme := by
  unfold afterScheme? at h
  split at h
  · next hkind =>
    rw [eq_fileScheme_of_kind hkind]
    exact scheme_of_file? (fun b hb => by simpa using (Option.mem_filter_iff.mp hb).2) h
  · exact scheme_of_other? h
  · split at h
    · next b =>
      dsimp only at h
      split at h
      · next hsame =>
        rw [scheme_of_relative? h]
        simpa using (Bool.and_eq_true_iff.mp hsame).2
      · exact scheme_of_afterSlashes? h
    · exact scheme_of_afterSlashes? h

/-- The scheme of a URL is that of the reference, or else that of the base. -/
theorem scheme_of_read? (h : read? base reference = .ok u) :
    schemeOf? reference = some u.scheme ∨
      schemeOf? reference = none ∧ ∃ b ∈ base, u.scheme = b.scheme := by
  unfold read? at h
  dsimp only at h
  split at h
  · next scheme rest hscheme =>
    left
    rw [scheme_of_afterScheme? h]
    exact schemeOf?_eq_some_iff.mpr ⟨rest, hscheme⟩
  · next hscheme =>
    refine .inr ⟨schemeOf?_eq_none_iff.mpr hscheme, ?_⟩
    split at h
    · cases h
    · next b =>
      refine ⟨b, rfl, ?_⟩
      split at h
      · cases h
        rfl
      · split at h
        · cases h
        · split at h
          · next hkind =>
            have hfile := eq_fileScheme_of_kind hkind
            have hbase : ∀ c ∈ some b, c.scheme = fileScheme := by
              rintro c ⟨⟩
              exact hfile
            rw [scheme_of_file? hbase h, hfile]
          · exact scheme_of_relative? h

/-- The scheme of a URL that is read by itself is that of its text. -/
lemma schemeOf?_of_parse? (h : parse? reference = .ok u) :
    schemeOf? reference = some u.scheme := by
  rcases scheme_of_read? h with hscheme | ⟨-, b, hb, -⟩
  · exact hscheme
  · cases hb

/-- The scheme of a reference is one, in lower case. -/
lemma isScheme_of_schemeOf? (h : schemeOf? reference = some scheme) :
    IsScheme scheme ∧ scheme.map Char.toLower = scheme := by
  obtain ⟨rest, h⟩ := schemeOf?_eq_some_iff.mp h
  obtain ⟨raw, hraw, -, rfl⟩ := scheme?_eq_some_iff.mp h
  refine ⟨hraw.map_toLower, ?_⟩
  rw [List.map_map]
  exact List.map_congr_left fun c _ => Char.toLower_toLower_eq_toLower c

/-- The text of a URL has the scheme of the URL. -/
lemma schemeOf?_text (hscheme : IsScheme u.scheme) (hlower : u.scheme.map Char.toLower = u.scheme) :
    schemeOf? u.text = some u.scheme := by
  unfold text
  rw [schemeOf?_eq_some_iff]
  simp only [List.append_assoc, List.cons_append]
  rw [scheme?_strip_append hscheme, hlower]
  exact ⟨_, rfl⟩

/-- A reference with a scheme is read by itself, unless the base is of the web or a file and has the
same scheme. -/
lemma read?_eq_parse? (h : schemeOf? reference = some scheme)
    (hbase : Kind.ofScheme scheme = .other ∨ ∀ b ∈ base, b.scheme ≠ scheme) :
    read? base reference = parse? reference := by
  obtain ⟨rest, hrest⟩ := schemeOf?_eq_some_iff.mp h
  simp only [parse?, read?, hrest]
  unfold afterScheme?
  split
  · next hkind =>
    have hscheme := eq_fileScheme_of_kind hkind
    have hfilter : base.filter (fun b => b.scheme = fileScheme) = none := by
      rcases hbase with hother | hne
      · rw [hkind] at hother
        cases hother
      · rw [Option.filter_eq_none_iff]
        exact fun b hb => by simpa [hscheme] using hne b hb
    rw [hfilter]
    rfl
  · rfl
  · next hkind =>
    cases base with
    | none => rfl
    | some b =>
      have hne : b.scheme ≠ scheme := by
        rcases hbase with hother | hne
        · rw [hkind] at hother
          cases hother
        · exact hne b rfl
      simp [hne]

end Url

end Retrace
