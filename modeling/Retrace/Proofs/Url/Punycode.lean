import Mathlib
import Retrace.Url.Punycode

/-!
# Punycode read back

Writing and reading a label keep in step. Each time a character has been written, the reader has
the characters up to it: those with smaller code points in all of the label, and those with its own
code point in the part of the label that was passed (`Agrees`). The writer counts how far it comes
in that order, the reader adds up the same numbers, and so the reader puts each character where it
was (`Agrees.pass`).

The digits of a distance are read as the distance as long as it stays below `35 ^ 6`
(`foldlM_distanceDigits`), and it does in labels of up to a thousand characters. They read back as
they were (`decode?_encode`).
-/

namespace Retrace

namespace Url

namespace Punycode

variable {label scanned remaining : List Char} {code basic : ℕ} {codes : List ℕ} {c : Char}
  {p : Progress} {r : Reading}

/-! ### Digits -/

/-- The symbol of a digit is read as the digit. -/
lemma digit?_symbol : ∀ d < 36, digit? (symbol d) = some d := by decide

/-- No symbol is the hyphen that stands in front of the digits. -/
lemma symbol_ne_hyphen : ∀ d < 36, symbol d ≠ '-' := by decide

/-- A threshold is never zero. -/
lemma threshold_pos (k bias : ℕ) : 1 ≤ threshold k bias := by
  unfold threshold
  split
  · omega
  · split <;> omega

/-- A threshold is never above its greatest value. -/
lemma threshold_le (k bias : ℕ) : threshold k bias ≤ 26 := by
  unfold threshold
  split
  · omega
  · split <;> omega

/-- The weights of digits: as long as the threshold has not reached its greatest value, the digit at
`36 * (j + 1)` has the weight `35 ^ j`. -/
def Weighted (k bias weight : ℕ) : Prop :=
  threshold k bias = 26 ∨ ∃ j, k = 36 * (j + 1) ∧ weight = 35 ^ j

/-- The first digit of a distance has the weight one. -/
lemma weighted_first (bias : ℕ) : Weighted 36 bias 1 :=
  .inr ⟨0, rfl, rfl⟩

/-- The weights go on from one digit to the next. -/
lemma Weighted.further {k bias weight : ℕ} (h : Weighted k bias weight) :
    Weighted (k + 36) bias (weight * (36 - threshold k bias)) := by
  by_cases hone : threshold k bias = 1
  · rcases h with h | ⟨j, hk, hweight⟩
    · omega
    · refine .inr ⟨j + 1, by omega, ?_⟩
      rw [hone, hweight, pow_succ]
  · left
    unfold threshold at hone ⊢
    split_ifs at hone ⊢ <;> omega

/-- The weight of a further digit keeps within the bound of the numbers that are read. -/
lemma Weighted.le_limit {k bias weight distance : ℕ} (h : Weighted k bias weight)
    (hdistance : threshold k bias * weight ≤ distance) (hbound : distance < 35 ^ 6) :
    weight * (36 - threshold k bias) ≤ limit := by
  have hpos := threshold_pos k bias
  unfold limit
  rcases h with h | ⟨j, -, rfl⟩
  · rw [h] at hdistance ⊢
    omega
  · have hpow : 35 ^ j < 35 ^ 6 :=
      lt_of_le_of_lt ((Nat.le_mul_of_pos_left _ hpos).trans hdistance) hbound
    have hj : j < 6 := (Nat.pow_lt_pow_iff_right (by decide)).mp hpow
    calc 35 ^ j * (36 - threshold k bias) ≤ 35 ^ j * 35 := Nat.mul_le_mul_left _ (by omega)
      _ = 35 ^ (j + 1) := (pow_succ 35 j).symm
      _ ≤ 35 ^ 6 := Nat.pow_le_pow_right (by decide) (by omega)
      _ ≤ 0xFFFFFFFF := by decide

/-- Puts a character in, at a distance from the one that was put in last. -/
def insert? (r : Reading) (distance : ℕ) : Option Reading :=
  let size := r.label.length + 1
  let place := r.place + distance
  let code := r.code + place / size
  if 0x10FFFF < code || (0xD800 ≤ code && code ≤ 0xDFFF) then none
  else
    let index := place % size
    some {
      label := r.label.take index ++ [Char.ofNat code] ++ r.label.drop index
      place := index + 1
      code := code
      bias := adapt distance size (r.place = 0)
      distance := 0
      weight := 1
      k := 36 }

/-- A digit below the threshold is the last one of a distance. -/
lemma readDigit?_last {d : ℕ} (hd : d < threshold r.k r.bias)
    (hlimit : r.distance + d * r.weight ≤ limit) :
    readDigit? r (symbol d) = insert? r (r.distance + d * r.weight) := by
  have hthreshold := threshold_le r.k r.bias
  rw [readDigit?, digit?_symbol d (by omega)]
  simp only [if_neg (not_lt.mpr hlimit), if_neg (not_le.mpr hd)]
  rfl

/-- A digit from the threshold on adds to the distance, and more are to come. -/
lemma readDigit?_more {d : ℕ} (hd : d < 36) (ht : threshold r.k r.bias ≤ d)
    (hlimit : r.distance + d * r.weight ≤ limit)
    (hweight : r.weight * (36 - threshold r.k r.bias) ≤ limit) :
    readDigit? r (symbol d) = some { r with
      distance := r.distance + d * r.weight
      weight := r.weight * (36 - threshold r.k r.bias)
      k := r.k + 36 } := by
  rw [readDigit?, digit?_symbol d hd]
  simp only [if_neg (not_lt.mpr hlimit), if_pos ht, if_neg (not_lt.mpr hweight)]

/-- What a digit and the further ones add up to, at their weights. -/
lemma add_digit_add_rest {t distance : ℕ} (ht : t ≤ distance) (sum weight : ℕ) :
    sum + (t + (distance - t) % (36 - t)) * weight +
      (distance - t) / (36 - t) * (weight * (36 - t)) = sum + distance * weight := by
  obtain ⟨excess, rfl⟩ := Nat.exists_eq_add_of_le ht
  rw [Nat.add_sub_cancel_left]
  conv_rhs => rw [← Nat.mod_add_div excess (36 - t)]
  ring

/-- The digits of a distance are read as the distance. -/
lemma foldlM_distanceDigits {bias k distance : ℕ} (hbias : r.bias = bias) (hk : r.k = k)
    (hweight : Weighted k bias r.weight) (hbound : r.distance + distance * r.weight < 35 ^ 6) :
    (distanceDigits bias k distance).foldlM readDigit? r =
      insert? r (r.distance + distance * r.weight) := by
  have hlimit : 35 ^ 6 ≤ limit := by decide
  induction k, distance using distanceDigits.induct bias generalizing r with
  | case1 k distance h =>
    rw [distanceDigits, if_pos h, List.foldlM_cons, readDigit?_last]
    · exact bind_pure _
    · rwa [hbias, hk]
    · omega
  | case2 k distance h excess width =>
    rename_i ih
    have hpos := threshold_pos k bias
    have hle := threshold_le k bias
    rw [not_lt] at h
    have hmod : (distance - threshold k bias) % (36 - threshold k bias) < 36 - threshold k bias :=
      Nat.mod_lt _ (by omega)
    have hsum := add_digit_add_rest h r.distance r.weight
    have hmore := readDigit?_more (r := r)
      (d := threshold k bias + (distance - threshold k bias) % (36 - threshold k bias))
      (by omega) (by rw [hk, hbias]; omega) (by omega)
      (by
        rw [hk, hbias]
        have hthreshold := Nat.mul_le_mul_right r.weight h
        exact hweight.le_limit (Nat.le_add_left_of_le hthreshold) hbound)
    rw [distanceDigits, if_neg (not_lt.mpr h), List.foldlM_cons, hmore, Option.bind_eq_bind,
      Option.bind_some, hk, hbias, ih]
    · simp only
      rw [hsum]
      rfl
    · rfl
    · rfl
    · exact hweight.further
    · exact hsum.trans_lt hbound

/-- What has been read after a character was put in at an index. -/
def Reading.put (r : Reading) (c : Char) (distance index : ℕ) : Reading where
  label := r.label.take index ++ [c] ++ r.label.drop index
  place := index + 1
  code := c.toNat
  bias := adapt distance (r.label.length + 1) (r.place = 0)
  distance := 0
  weight := 1
  k := 36

/-- The character that is put in, where the running numbers of the writer and the reader agree. -/
lemma insert?_eq {distance index : ℕ} (hindex : index ≤ r.label.length)
    (hplace : r.code * (r.label.length + 1) + r.place + distance =
      c.toNat * (r.label.length + 1) + index) :
    insert? r distance = some (r.put c distance index) := by
  have hsize : 0 < r.label.length + 1 := Nat.succ_pos _
  have hsum : r.place + distance + r.code * (r.label.length + 1) =
      index + c.toNat * (r.label.length + 1) := by omega
  have hcode : r.code + (r.place + distance) / (r.label.length + 1) = c.toNat := by
    rw [Nat.add_comm, ← Nat.add_mul_div_right _ _ hsize, hsum, Nat.add_mul_div_right _ _ hsize,
      Nat.div_eq_of_lt (by omega), Nat.zero_add]
  have hmod : (r.place + distance) % (r.label.length + 1) = index := by
    rw [← Nat.add_mul_mod_self_right _ r.code, hsum, Nat.add_mul_mod_self_right,
      Nat.mod_eq_of_lt (by omega)]
  have hvalid : c.toNat < 0xD800 ∨ 0xDFFF < c.toNat ∧ c.toNat < 0x110000 := c.valid
  have hnone : ¬ (0x10FFFF < c.toNat || (0xD800 ≤ c.toNat && c.toNat ≤ 0xDFFF)) := by
    simp only [Bool.or_eq_true, Bool.and_eq_true, decide_eq_true_eq]
    omega
  simp only [insert?, hcode, hmod]
  rw [if_neg hnone, Char.ofNat_toNat]
  rfl

/-! ### Writer and reader -/

/-- The characters up to a code point, those of this code point only in the part that was passed. -/
def written (code : ℕ) (scanned remaining : List Char) : List Char :=
  scanned.filter (fun c => c.toNat ≤ code) ++ remaining.filter fun c => c.toNat < code

/-- How many of the characters that are written stand in the part that was passed. -/
def passed (code : ℕ) (scanned : List Char) : ℕ :=
  (scanned.filter fun c => c.toNat ≤ code).length

/-- What a reader has read and a writer has written, when the characters of a code point are being
written and those in `scanned` were passed. -/
structure Agrees (start : Reading) (basic code : ℕ) (scanned remaining : List Char) (p : Progress)
    (r : Reading) : Prop where
  output : p.output.reverse.foldlM readDigit? start = some r
  label : r.label = written code scanned remaining
  count : r.label.length = p.count
  bias : r.bias = p.bias
  distance : r.distance = 0
  weight : r.weight = 1
  k : r.k = 36
  first : r.place = 0 ↔ p.count = basic
  le_count : basic ≤ p.count
  place : r.code * (p.count + 1) + r.place + p.distance =
    code * (p.count + 1) + passed code scanned

/-- Passing a character with another code point changes nothing in what is written. -/
lemma written_of_ne (hc : c.toNat ≠ code) (scanned remaining : List Char) :
    written code scanned (c :: remaining) = written code (scanned ++ [c]) remaining := by
  have hiff : c.toNat ≤ code ↔ c.toNat < code := by omega
  by_cases h : c.toNat < code
  · simp [written, h, hiff.mpr h]
  · simp [written, h, hiff]

/-- A character that is written counts when it is passed. -/
lemma passed_concat_of_le (hc : c.toNat ≤ code) (scanned : List Char) :
    passed code (scanned ++ [c]) = passed code scanned + 1 := by
  simp [passed, hc]

/-- A character that is not written yet does not. -/
lemma passed_concat_of_lt (hc : code < c.toNat) (scanned : List Char) :
    passed code (scanned ++ [c]) = passed code scanned := by
  simp [passed, hc]

variable {start : Reading}

/-- A character with another code point is passed without a digit. -/
lemma Agrees.pass_of_ne (h : Agrees start basic code scanned (c :: remaining) p r)
    (hc : c.toNat ≠ code) :
    Agrees start basic code (scanned ++ [c]) remaining (Punycode.pass code basic p c) r := by
  have hlabel : r.label = written code (scanned ++ [c]) remaining := by
    rw [h.label, written_of_ne hc]
  unfold Punycode.pass
  rw [if_neg hc]
  split
  · next hlt =>
    refine { h with label := hlabel, place := ?_ }
    rw [passed_concat_of_le hlt.le]
    simp only
    rw [← Nat.add_assoc, ← Nat.add_assoc, h.place]
  · next hle =>
    refine { h with label := hlabel, place := ?_ }
    rw [passed_concat_of_lt (by omega), h.place]

/-- What has been read when a character with the code point that is being written comes. -/
lemma Agrees.label_eq (h : Agrees start basic code scanned (c :: remaining) p r)
    (hc : c.toNat = code) : r.label =
      scanned.filter (fun c => c.toNat ≤ code) ++ remaining.filter fun c => c.toNat < code := by
  rw [h.label, written, List.filter_cons_of_neg (by simp [hc])]

/-- In a label of up to a thousand characters the distances are small enough to be read. -/
lemma Agrees.distance_lt (h : Agrees start basic code scanned (c :: remaining) p r)
    (hc : c.toNat = code) (hlength : (scanned ++ c :: remaining).length ≤ 1000) :
    p.distance < 35 ^ 6 := by
  have hsum := congrArg List.length (h.label_eq hc)
  have hscanned := List.length_filter_le (fun c => decide (c.toNat ≤ code)) scanned
  have hremaining := List.length_filter_le (fun c => decide (c.toNat < code)) remaining
  rw [List.length_append, h.count] at hsum
  rw [List.length_append, List.length_cons] at hlength
  have hvalid : c.toNat < 0xD800 ∨ 0xDFFF < c.toNat ∧ c.toNat < 0x110000 := c.valid
  have hmul : code * (p.count + 1) ≤ 0x10FFFF * 1000 := Nat.mul_le_mul (by omega) (by omega)
  have hplace := h.place
  unfold passed at hplace
  omega

/-- The digits of a character's distance are read as the character, at its place. -/
lemma Agrees.foldlM_digits (h : Agrees start basic code scanned (c :: remaining) p r)
    (hc : c.toNat = code) (hlength : (scanned ++ c :: remaining).length ≤ 1000) :
    (distanceDigits p.bias 36 p.distance).foldlM readDigit? r =
      some (r.put c p.distance (passed code scanned)) := by
  have hindex : passed code scanned ≤ r.label.length := by
    rw [h.label_eq hc, List.length_append]
    exact Nat.le_add_right _ _
  have hweight : Weighted 36 p.bias r.weight := h.weight ▸ weighted_first p.bias
  have hsmall : r.distance + p.distance * r.weight < 35 ^ 6 := by
    rw [h.distance, h.weight, Nat.zero_add, Nat.mul_one]
    exact h.distance_lt hc hlength
  rw [foldlM_distanceDigits h.bias h.k hweight hsmall, h.distance, h.weight, Nat.zero_add,
    Nat.mul_one]
  apply insert?_eq hindex
  rw [h.count, hc]
  exact h.place

/-- A character with the code point that is being written is written and read. -/
lemma Agrees.pass_of_eq (h : Agrees start basic code scanned (c :: remaining) p r)
    (hc : c.toNat = code) (hlength : (scanned ++ c :: remaining).length ≤ 1000) :
    Agrees start basic code (scanned ++ [c]) remaining (Punycode.pass code basic p c)
      (r.put c p.distance (passed code scanned)) := by
  have hcount := h.count
  have htake : r.label.take (passed code scanned) = scanned.filter fun c => c.toNat ≤ code := by
    rw [h.label_eq hc, passed, List.take_left]
  have hdrop : r.label.drop (passed code scanned) =
      remaining.filter fun c => c.toNat < code := by
    rw [h.label_eq hc, passed, List.drop_left]
  have hsum := congrArg List.length (h.label_eq hc)
  rw [List.length_append] at hsum
  unfold Punycode.pass
  rw [if_neg hc.not_lt, if_pos hc]
  constructor
  case output =>
    rw [List.reverse_append, List.reverse_reverse, List.foldlM_append, h.output]
    exact h.foldlM_digits hc hlength
  case label =>
    rw [Reading.put, htake, hdrop, written, List.filter_append, List.filter_singleton, hc]
    simp
  case count =>
    rw [Reading.put, htake, hdrop]
    simp only [List.length_append, List.length_singleton]
    omega
  case bias =>
    simp only [Reading.put]
    rw [hcount, decide_eq_decide.mpr h.first]
  case first =>
    have := h.le_count
    simp only [Reading.put]
    omega
  case le_count => exact h.le_count.trans (Nat.le_succ _)
  case place =>
    simp only [Reading.put]
    rw [hc, passed_concat_of_le hc.le]
    omega
  all_goals rfl

/-- Passing a character keeps writer and reader in step. -/
lemma Agrees.pass (h : Agrees start basic code scanned (c :: remaining) p r)
    (hlength : (scanned ++ c :: remaining).length ≤ 1000) :
    ∃ r', Agrees start basic code (scanned ++ [c]) remaining (Punycode.pass code basic p c) r' := by
  by_cases hc : c.toNat = code
  · exact ⟨_, h.pass_of_eq hc hlength⟩
  · exact ⟨r, h.pass_of_ne hc⟩

/-- A pass over a label keeps writer and reader in step. -/
lemma Agrees.foldl_pass (h : Agrees start basic code scanned remaining p r)
    (hlength : (scanned ++ remaining).length ≤ 1000) :
    ∃ r', Agrees start basic code (scanned ++ remaining) []
      (remaining.foldl (Punycode.pass code basic) p) r' := by
  induction remaining generalizing scanned p r with
  | nil => exact ⟨r, by rwa [List.append_nil]⟩
  | cons c remaining ih =>
    obtain ⟨r', h'⟩ := h.pass hlength
    obtain ⟨r'', h''⟩ := ih h' (by rwa [← List.append_cons])
    rw [← List.append_cons] at h''
    exact ⟨r'', h''⟩

/-- After a pass the writer goes on to the next code point. -/
lemma Agrees.restart (h : Agrees start basic code label [] p r) :
    Agrees start basic (code + 1) [] label { p with distance := p.distance + 1 } r := by
  have hlabel : r.label = label.filter fun c => c.toNat ≤ code := by
    rw [h.label, written, List.filter_nil, List.append_nil]
  have hpassed : passed code label = p.count := by
    rw [passed, ← hlabel, h.count]
  refine { h with label := ?_, place := ?_ }
  · rw [hlabel, written, List.filter_nil, List.nil_append]
    simp only [Nat.lt_succ_iff]
  · have hplace := h.place
    have hmul : (code + 1) * (p.count + 1) = code * (p.count + 1) + (p.count + 1) :=
      Nat.succ_mul code (p.count + 1)
    simp only [passed, List.filter_nil, List.length_nil]
    omega

/-- Code points that the label does not have are skipped. -/
lemma Agrees.skip {goal : ℕ} (h : Agrees start basic code [] label p r) (hle : code ≤ goal)
    (hlabel : ∀ c ∈ label, c.toNat < code ∨ goal ≤ c.toNat) :
    Agrees start basic goal [] label
      { p with distance := p.distance + (goal - code) * (p.count + 1) } r := by
  refine { h with label := ?_, place := ?_ }
  · rw [h.label, written, written, List.filter_nil]
    congr 1
    apply List.filter_congr
    intro c hc
    have := hlabel c hc
    rw [decide_eq_decide]
    omega
  · have hplace := h.place
    have hmul : goal * (p.count + 1) = code * (p.count + 1) + (goal - code) * (p.count + 1) := by
      rw [← Nat.add_mul, Nat.add_sub_cancel' hle]
    simp only [passed, List.filter_nil, List.length_nil] at hplace ⊢
    omega

/-- When all code points of a label have been written, the label has been read. -/
lemma Agrees.passes (h : Agrees start basic code [] label p r) (hsorted : codes.Pairwise (· < ·))
    (hcodes : ∀ later ∈ codes, code ≤ later)
    (hlabel : ∀ c ∈ label, c.toNat < code ∨ c.toNat ∈ codes) (hlength : label.length ≤ 1000) :
    ∃ r', (passes label basic code codes p).output.reverse.foldlM readDigit? start = some r' ∧
      r'.label = label ∧ r'.k = 36 := by
  induction codes generalizing code p r with
  | nil =>
    refine ⟨r, h.output, ?_, h.k⟩
    rw [h.label, written, List.filter_nil, List.nil_append, List.filter_eq_self]
    intro c hc
    simpa using hlabel c hc
  | cons goal codes ih =>
    obtain ⟨hfirst, hrest⟩ := List.pairwise_cons.mp hsorted
    have hgoal := hcodes goal List.mem_cons_self
    have hskip : ∀ c ∈ label, c.toNat < code ∨ goal ≤ c.toNat := by
      intro c hc
      rcases hlabel c hc with hlt | hmem
      · exact .inl hlt
      · rcases List.mem_cons.mp hmem with heq | hmem
        · exact .inr heq.ge
        · exact .inr (hfirst _ hmem).le
    obtain ⟨r', hpass⟩ := (h.skip hgoal hskip).foldl_pass hlength
    apply ih hpass.restart hrest
    · exact fun later hlater => hfirst later hlater
    · intro c hc
      rcases hlabel c hc with hlt | hmem
      · exact .inl (by omega)
      · rcases List.mem_cons.mp hmem with heq | hmem
        · exact .inl (by omega)
        · exact .inr hmem

/-! ### The code points of a label -/

/-- What a list has after an insertion. -/
lemma mem_insertOnce {m n : ℕ} {list : List ℕ} : m ∈ insertOnce n list ↔ m = n ∨ m ∈ list := by
  induction list with
  | nil => simp [insertOnce]
  | cons first list ih =>
    rw [insertOnce]
    split_ifs with hlt heq
    · simp
    · simp [heq]
    · rw [List.mem_cons, List.mem_cons, ih, or_left_comm]

/-- Inserting keeps a list in ascending order. -/
lemma pairwise_insertOnce {n : ℕ} {list : List ℕ} (h : list.Pairwise (· < ·)) :
    (insertOnce n list).Pairwise (· < ·) := by
  induction list with
  | nil => exact List.pairwise_singleton _ _
  | cons first list ih =>
    obtain ⟨hfirst, hrest⟩ := List.pairwise_cons.mp h
    rw [insertOnce]
    split_ifs with hlt heq
    · refine List.pairwise_cons.mpr ⟨fun m hm => ?_, h⟩
      rcases List.mem_cons.mp hm with rfl | hm
      · exact hlt
      · exact hlt.trans (hfirst m hm)
    · exact h
    · refine List.pairwise_cons.mpr ⟨fun m hm => ?_, ih hrest⟩
      rcases mem_insertOnce.mp hm with rfl | hm
      · omega
      · exact hfirst m hm

/-- The code points of a label that are not ASCII, in ascending order. -/
def codePoints (label : List Char) : List ℕ :=
  (label.filter fun c => !isAscii c).foldr (fun c codes => insertOnce c.toNat codes) []

/-- The code points of a label are those of its characters that are not ASCII. -/
lemma mem_codePoints {code : ℕ} :
    code ∈ codePoints label ↔ ∃ c ∈ label, isAscii c = false ∧ c.toNat = code := by
  have hfold : ∀ list : List Char,
      code ∈ list.foldr (fun c codes => insertOnce c.toNat codes) [] ↔ ∃ c ∈ list, c.toNat = code := by
    intro list
    induction list with
    | nil => simp
    | cons c list ih =>
      rw [List.foldr_cons, mem_insertOnce, ih, List.exists_mem_cons_iff, eq_comm]
  rw [codePoints, hfold]
  simp [and_assoc]

/-- They are in ascending order, each of them once. -/
lemma pairwise_codePoints (label : List Char) : (codePoints label).Pairwise (· < ·) := by
  unfold codePoints
  induction label.filter fun c => !isAscii c with
  | nil => exact List.Pairwise.nil
  | cons c list ih => exact pairwise_insertOnce ih

/-! ### The ASCII form of a label -/

/-- What the reader starts with. -/
def initial (label : List Char) : Reading :=
  ⟨label.filter isAscii, 0, 0x80, 72, 0, 1, 36⟩

/-- The digits of the ASCII form of a label. -/
def digits (label : List Char) : List Char :=
  (passes label (label.filter isAscii).length 0x80 (codePoints label)
    ⟨0, 72, (label.filter isAscii).length, []⟩).output.reverse

/-- The ASCII form of a label is its ASCII characters and the digits, with a hyphen in between if
there are such characters. -/
lemma encode_eq (label : List Char) :
    encode label = label.filter isAscii ++ (if (label.filter isAscii).isEmpty then [] else ['-']) ++
      digits label := rfl

/-- Reading the digits of a label gives the label. -/
lemma foldlM_digits (hlength : label.length ≤ 1000) :
    ∃ r, (digits label).foldlM readDigit? (initial label) = some r ∧ r.label = label ∧ r.k = 36 := by
  have hstart : Agrees (initial label) (label.filter isAscii).length 0x80 [] label
      ⟨0, 72, (label.filter isAscii).length, []⟩ (initial label) := by
    refine ⟨rfl, ?_, rfl, rfl, rfl, rfl, rfl, by simp [initial], le_rfl, ?_⟩
    · rw [written, List.filter_nil, List.nil_append]
      rfl
    · simp [initial, passed]
  apply hstart.passes (pairwise_codePoints label)
  · intro code hcode
    obtain ⟨c, -, hc, rfl⟩ := mem_codePoints.mp hcode
    simpa [isAscii] using hc
  · intro c hc
    by_cases hascii : isAscii c
    · exact .inl (by simpa [isAscii] using hascii)
    · exact .inr (mem_codePoints.mpr ⟨c, hc, by simpa using hascii, rfl⟩)
  · exact hlength

/-- A digit of an ASCII form. -/
def IsSymbol (c : Char) : Prop :=
  ∃ d < 36, c = symbol d

/-- The digits of a distance are symbols. -/
lemma isSymbol_of_mem_distanceDigits {bias k distance : ℕ} (h : c ∈ distanceDigits bias k distance) :
    IsSymbol c := by
  induction k, distance using distanceDigits.induct bias with
  | case1 k distance hlt =>
    rw [distanceDigits, if_pos hlt, List.mem_singleton] at h
    exact ⟨distance, hlt.trans_le ((threshold_le k bias).trans (by decide)), h⟩
  | case2 k distance hle excess width =>
    rename_i ih
    have hthreshold := threshold_le k bias
    have hmod : excess % width < 36 - threshold k bias := Nat.mod_lt _ (by omega)
    rw [distanceDigits, if_neg hle] at h
    rcases List.mem_cons.mp h with rfl | h
    · exact ⟨threshold k bias + excess % width, by omega, rfl⟩
    · exact ih h

/-- Passing characters puts out nothing but symbols. -/
lemma isSymbol_foldl_pass (h : ∀ d ∈ p.output, IsSymbol d) (list : List Char) :
    ∀ d ∈ (list.foldl (pass code basic) p).output, IsSymbol d := by
  induction list generalizing p with
  | nil => exact h
  | cons c list ih =>
    apply ih
    unfold pass
    split
    · exact h
    · split
      · intro d hd
        rcases List.mem_append.mp hd with hd | hd
        · exact isSymbol_of_mem_distanceDigits (List.mem_reverse.mp hd)
        · exact h d hd
      · exact h

/-- All passes together put out nothing but symbols. -/
lemma isSymbol_passes (h : ∀ d ∈ p.output, IsSymbol d) :
    ∀ d ∈ (passes label basic code codes p).output, IsSymbol d := by
  induction codes generalizing code p with
  | nil => exact h
  | cons goal codes ih =>
    apply ih
    intro d hd
    exact isSymbol_foldl_pass
      (p := { p with distance := p.distance + (goal - code) * (p.count + 1) }) h label d hd

/-- The digits of a label are symbols. -/
lemma isSymbol_of_mem_digits (h : c ∈ digits label) : IsSymbol c := by
  apply isSymbol_passes (p := ⟨0, 72, (label.filter isAscii).length, []⟩) ?_ c (List.mem_reverse.mp h)
  simp

/-- The characters of an ASCII form. -/
lemma mem_encode (h : c ∈ encode label) :
    (c ∈ label ∧ isAscii c) ∨ c = '-' ∨ IsSymbol c := by
  rw [encode_eq, List.mem_append, List.mem_append] at h
  rcases h with (h | h) | h
  · exact .inl (List.mem_filter.mp h)
  · right; left
    split at h
    · cases h
    · exact List.mem_singleton.mp h
  · exact .inr (.inr (isSymbol_of_mem_digits h))

/-- The ASCII form is taken apart at its last hyphen, since the digits have none. -/
lemma splitBasic_encode (label : List Char) :
    splitBasic (encode label) = (label.filter isAscii, digits label) := by
  have hplain : ∀ c ∈ (digits label).reverse, decide (c ≠ '-') = true := by
    intro c hc
    obtain ⟨d, hd, rfl⟩ := isSymbol_of_mem_digits (List.mem_reverse.mp hc)
    exact decide_eq_true (symbol_ne_hyphen d hd)
  have htake : ((encode label).reverse.takeWhile (· ≠ '-')).reverse = digits label := by
    rw [encode_eq, List.reverse_append, List.takeWhile_append_of_pos hplain]
    split
    · next hempty => simp [List.isEmpty_iff.mp hempty]
    · simp
  rw [splitBasic]
  simp only [htake]
  rw [encode_eq]
  split
  · next hempty => simp [List.isEmpty_iff.mp hempty]
  · have hlength : (label.filter isAscii).length + ((digits label).length + 1) -
        (digits label).length - 1 = (label.filter isAscii).length := by omega
    simp [hlength]

/-- **Labels read back.** -/
theorem decode?_encode (hlength : label.length ≤ 1000) : decode? (encode label) = some label := by
  obtain ⟨r, hdigits, hlabel, hk⟩ := foldlM_digits hlength
  have hascii : (label.filter isAscii).all isAscii = true :=
    List.all_eq_true.mpr fun c hc => (List.mem_filter.mp hc).2
  unfold initial at hdigits
  unfold decode?
  simp only [splitBasic_encode, hdigits]
  simp [hk, hascii, hlabel]

end Punycode

end Url

end Retrace
