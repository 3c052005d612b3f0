import Mathlib
import Retrace.Proofs.SourceMap.LeftToRight
import Retrace.Proofs.SourceMap.Numerals

/-!
# Sums in words

The sums of a text of mappings are integers here, and a reader has words of sixty-four bits for them.
This file reads a text with such words, and every operation whose result is no word ends the reading
with a fault of its own (`Fault.exceeds`): the digits of a number are shifted to their place and
added up, the number is negated by its sign, and the numbers of a segment are added to the registers.

The result is that no operation exceeds and that the words come to the same as the integers do
(`checked_eq_exact`).  One step is enough for that: a number has a magnitude below `2 ^ 34`, and the
registers are places of thirty-two bits after every segment that is accepted (`fits_step`), so that
the next sums are words again (`segment?_ofSums`).  A run over the pieces of a text keeps it
(`run_inWords`).
-/

namespace Retrace

/-- Why a reading with words ends: an operation has a result that is no word, or the text is in
error. -/
inductive Fault (ε : Type)
  | exceeds
  | invalid (e : ε)

/-- The fault with another wording of the error. -/
def Fault.map {ε δ : Type} (f : ε → δ) : Fault ε → Fault δ
  | .exceeds => .exceeds
  | .invalid e => .invalid (f e)

namespace Word

variable {ε : Type}

/-! ### Operations -/

/-- The word of an integer, if there is one. -/
def ofInt? (n : ℤ) : Except (Fault ε) Int64 :=
  if -2 ^ 63 ≤ n ∧ n < 2 ^ 63 then .ok (Int64.ofInt n) else .error .exceeds

/-- The sum of two words. -/
def add? (a b : Int64) : Except (Fault ε) Int64 := ofInt? (a.toInt + b.toInt)

/-- The negative of a word. -/
def negate? (a : Int64) : Except (Fault ε) Int64 := ofInt? (-a.toInt)

/-- A word with its bits so many of its sixty-four places higher. -/
def shiftLeft? (a : Int64) (places : ℕ) : Except (Fault ε) Int64 :=
  if places < 64 then ofInt? (a.toInt * 2 ^ places) else .error .exceeds

/-- The number whose magnitude and sign are given together, the sign as the lowest bit. -/
def ofSigned? (bits : Int64) : Except (Fault ε) Int64 :=
  if bits &&& 1 = 0 then .ok (bits >>> 1) else negate? (bits >>> 1)

/-- An integer far from the bounds is a word. -/
lemma ofInt?_eq {n : ℤ} (h : n.natAbs < 2 ^ 62) : ofInt? (ε := ε) n = .ok (Int64.ofInt n) :=
  if_pos (by omega)

/-- The word of an integer far from the bounds is read as the integer. -/
lemma toInt_ofInt {n : ℤ} (h : n.natAbs < 2 ^ 62) : (Int64.ofInt n).toInt = n :=
  Int64.toInt_ofInt_of_le (by omega) (by omega)

/-- Words far from the bounds are added as integers. -/
lemma add?_eq {a b : ℤ} (ha : a.natAbs < 2 ^ 61) (hb : b.natAbs < 2 ^ 61) :
    add? (ε := ε) (Int64.ofInt a) (Int64.ofInt b) = .ok (Int64.ofInt (a + b)) := by
  rw [add?, toInt_ofInt (by omega), toInt_ofInt (by omega), ofInt?_eq (by omega)]

/-- The bits of a digit have room at their place in a number. -/
lemma shiftLeft?_eq {d count : ℕ} (hd : d < 32) (hcount : count ≤ 6) :
    shiftLeft? (ε := ε) (Int64.ofInt d) (5 * count) =
      .ok (Int64.ofInt (d <<< (5 * count) : ℕ)) := by
  have hpow : d * 2 ^ (5 * count) < 32 * 2 ^ 30 :=
    calc d * 2 ^ (5 * count) < 32 * 2 ^ (5 * count) :=
          Nat.mul_lt_mul_of_pos_right hd (Nat.two_pow_pos _)
      _ ≤ 32 * 2 ^ 30 := Nat.mul_le_mul_left 32 (Nat.pow_le_pow_right (by decide) (by omega))
  have hcast : (d : ℤ) * 2 ^ (5 * count) = (d * 2 ^ (5 * count) : ℕ) := by push_cast; rfl
  rw [shiftLeft?, if_pos (by omega), toInt_ofInt (by omega), hcast, ofInt?_eq (by omega),
    Nat.shiftLeft_eq]

/-- A word of few bits is read with its sign as the integer is. -/
lemma ofSigned?_eq {bits : ℕ} (h : bits < 2 ^ 35) :
    ofSigned? (ε := ε) (Int64.ofInt bits) = .ok (Int64.ofInt (Vlq.ofSigned bits)) := by
  have hbits : (Int64.ofInt bits).toInt = bits := toInt_ofInt (by omega)
  have hone : (Int64.toBitVec 1).smod 64 = 1#64 := by decide
  have hhalf : (Int64.ofInt bits >>> 1).toInt = (bits / 2 : ℕ) := by
    rw [← Int64.toInt_toBitVec, Int64.toBitVec_shiftRight, hone, BitVec.sshiftRight',
      BitVec.toInt_sshiftRight, Int64.toInt_toBitVec, hbits]
    rfl
  have hword : Int64.ofInt bits >>> 1 = Int64.ofInt (bits / 2 : ℕ) := by
    rw [← Int64.ofInt_toInt (Int64.ofInt bits >>> 1), hhalf]
  have hsign : Int64.ofInt bits &&& 1 = 0 ↔ bits % 2 = 0 := by
    rw [← Int64.toBitVec_inj, Int64.toBitVec_and, Int64.ofInt_eq_ofNat, Int64.toBitVec_ofNat',
      ← BitVec.toNat_inj, BitVec.toNat_and]
    simp [Nat.and_one_is_mod]
  rw [ofSigned?, Vlq.ofSigned, hword]
  by_cases heven : bits % 2 = 0
  · rw [if_pos (hsign.mpr heven), if_pos heven]
  · rw [if_neg (mt hsign.mp heven), if_neg heven, negate?, toInt_ofInt (by omega),
      ofInt?_eq (by omega)]

end Word

/-! ### Numbers -/

namespace Vlq

/-- Reads words from within one of which `count` digits were read, with the given bits. -/
def wordsFrom (count : ℕ) (bits : Int64) : Bytes → Except (Fault Error) (List Int64)
  | [] => if count = 0 then .ok [] else .error (.invalid .truncated)
  | b :: rest =>
    if maxDigits ≤ count then .error (.invalid .overflow)
    else
      match Base64.digit? b with
      | none => .error (.invalid (.badDigit b))
      | some digit => do
        let part ← Word.shiftLeft? (Int64.ofInt (digit % 32 : ℕ)) (5 * count)
        let bits ← Word.add? bits part
        if digit < 32 then
          let number ← Word.ofSigned? bits
          let numbers ← wordsFrom 0 0 rest
          return number :: numbers
        else wordsFrom (count + 1) bits rest

/-- The words are those of the numbers, if the bits that were read before are those of so many
digits. -/
lemma wordsFrom_eq (count bits : ℕ) (hbits : bits < 2 ^ (5 * count)) (hcount : count ≤ 7)
    (text : Bytes) :
    wordsFrom count (Int64.ofInt bits) text =
      ((decodeFrom count bits text).map (List.map Int64.ofInt)).mapError .invalid := by
  induction text generalizing count bits with
  | nil =>
    rw [wordsFrom, decodeFrom]
    split <;> rfl
  | cons b rest ih =>
    rw [wordsFrom, decodeFrom]
    by_cases hfull : maxDigits ≤ count
    · rw [if_pos hfull, if_pos hfull]
      rfl
    · have hroom : count ≤ 6 := by
        unfold maxDigits at hfull
        omega
      rw [if_neg hfull, if_neg hfull]
      cases Base64.digit? b with
      | none => rfl
      | some digit =>
        have hdigit : digit % 32 < 32 := Nat.mod_lt digit (by decide)
        set part := (digit % 32) <<< (5 * count) with hpart
        have hnext : bits + part < 2 ^ (5 * (count + 1)) := by
          have hle : (digit % 32) * 2 ^ (5 * count) ≤ 31 * 2 ^ (5 * count) :=
            Nat.mul_le_mul_right _ (by omega)
          rw [hpart, Nat.shiftLeft_eq, two_pow_next]
          omega
        have hfew : bits + part < 2 ^ 35 :=
          hnext.trans_le (Nat.pow_le_pow_right (by decide) (by omega))
        have hshift : Word.shiftLeft? (ε := Error) (Int64.ofInt (digit % 32 : ℕ)) (5 * count) =
            .ok (Int64.ofInt part) := Word.shiftLeft?_eq hdigit hroom
        have hadd : Word.add? (ε := Error) (Int64.ofInt bits) (Int64.ofInt part) =
            .ok (Int64.ofInt (bits + part : ℕ)) := by
          have hbitsFew : bits < 2 ^ 35 := (Nat.le_add_right bits part).trans_lt hfew
          have hpartFew : part < 2 ^ 35 := (Nat.le_add_left part bits).trans_lt hfew
          clear_value part
          rw [Word.add?_eq (by omega) (by omega), Nat.cast_add]
        simp only [hshift, hadd, bind, Except.bind]
        by_cases hlast : digit < 32
        · have hrest : wordsFrom 0 0 rest = _ := ih 0 0 (by decide) (by decide)
          rw [if_pos hlast, if_pos hlast]
          simp only [Word.ofSigned?_eq hfew, hrest]
          cases decodeFrom 0 0 rest <;> rfl
        · rw [if_neg hlast, if_neg hlast]
          exact ih (count + 1) (bits + part) hnext (by omega)

end Vlq

namespace Mappings

/-- The words of a segment. -/
def words? (segment : List Char) : Except (Fault Error) (List Int64) :=
  (Vlq.wordsFrom 0 0 (Utf8.encode segment)).mapError (Fault.map (Error.ofVlq segment))

/-- The words of a segment are those of its numbers. -/
lemma words?_eq (segment : List Char) :
    words? segment = ((numbers? segment).map (List.map Int64.ofInt)).mapError .invalid := by
  have hwords : Vlq.wordsFrom 0 0 (Utf8.encode segment) = _ :=
    Vlq.wordsFrom_eq 0 0 (by decide) (by decide) (Utf8.encode segment)
  rw [words?, numbers?, Vlq.decode?, hwords]
  cases Vlq.decodeFrom 0 0 (Utf8.encode segment) <;> rfl

/-! ### Segments -/

/-- The sums that a reader keeps in words: that of the generated columns of a line, and those that
run through the whole text. -/
structure Registers where
  column : Int64
  source : Int64
  sourceLine : Int64
  sourceColumn : Int64
  name : Int64

/-- The sums of the whole text as integers. -/
def Registers.sums (r : Registers) : Sums :=
  ⟨r.source.toInt, r.sourceLine.toInt, r.sourceColumn.toInt, r.name.toInt⟩

/-- The words of sums. -/
def Registers.ofSums (column : ℤ) (sums : Sums) : Registers :=
  ⟨Int64.ofInt column, Int64.ofInt sums.source, Int64.ofInt sums.line, Int64.ofInt sums.column,
    Int64.ofInt sums.name⟩

/-- Reads a segment of a generated line with words.  All sums are taken before any of them is asked
to be a place, but for that of the names, which is taken when the place in the source is known. -/
def Registers.segment? (line : ℕ) (r : Registers) (text : List Char) :
    Except (Fault Error) (Segment × Registers) := do
  match ← words? text with
  | [c] =>
    let column ← Word.add? r.column c
    let place ← (place? .generatedColumn text line column.toInt).mapError .invalid
    return (⟨line, place, none, none⟩, { r with column })
  | [c, s, l, k] =>
    let column ← Word.add? r.column c
    let source ← Word.add? r.source s
    let sourceLine ← Word.add? r.sourceLine l
    let sourceColumn ← Word.add? r.sourceColumn k
    let r : Registers := { r with column, source, sourceLine, sourceColumn }
    let origin ← (origin? text line r.sums).mapError .invalid
    let place ← (place? .generatedColumn text line column.toInt).mapError .invalid
    return (⟨line, place, some origin, none⟩, r)
  | [c, s, l, k, n] =>
    let column ← Word.add? r.column c
    let source ← Word.add? r.source s
    let sourceLine ← Word.add? r.sourceLine l
    let sourceColumn ← Word.add? r.sourceColumn k
    let r : Registers := { r with column, source, sourceLine, sourceColumn }
    let origin ← (origin? text line r.sums).mapError .invalid
    let name ← Word.add? r.name n
    let nameIndex ← (place? .nameIndex text line name.toInt).mapError .invalid
    let place ← (place? .generatedColumn text line column.toInt).mapError .invalid
    return (⟨line, place, some origin, some nameIndex⟩, { r with name })
  | words => .error (.invalid (.fieldCount (String.ofList text) line words.length))

/-- Whether all registers are places. -/
structure Fits (registers : ℤ × Sums) : Prop where
  column : IsPlace registers.1
  sums : registers.2.Fits

/-- A number can be added to a place, and the word of the sum is read as the sum. -/
lemma add?_place {ε : Type} {a b : ℤ} (ha : IsPlace a) (hb : b.natAbs < 2 ^ 34) :
    Word.add? (ε := ε) (Int64.ofInt a) (Int64.ofInt b) = .ok (Int64.ofInt (a + b)) ∧
      (Int64.ofInt (a + b)).toInt = a + b := by
  unfold IsPlace at ha
  constructor
  · exact Word.add?_eq (by omega) (by omega)
  · exact Word.toInt_ofInt (by omega)

/-- The words of places are read as the places. -/
lemma toInt_place {a : ℤ} (ha : IsPlace a) : (Int64.ofInt a).toInt = a := by
  unfold IsPlace at ha
  exact Word.toInt_ofInt (by omega)

/-- **One segment.**  If all registers are places, words come to what integers come to. -/
lemma segment?_ofSums {column : ℤ} {sums : Sums} (hcolumn : IsPlace column) (hsums : sums.Fits)
    (line : ℕ) (text : List Char) :
    (Registers.ofSums column sums).segment? line text =
      ((segment? line column sums text).map fun r =>
        (r.1, Registers.ofSums r.2.1 r.2.2)).mapError .invalid := by
  rw [Registers.segment?, segment?, words?_eq]
  cases hnumbers : numbers? text with
  | error e => rfl
  | ok numbers =>
    have hsmall := natAbs_lt_of_numbers? hnumbers
    simp only [Except.map, Except.mapError, bind, Except.bind]
    -- By how many numbers there are: one, four and five are read, all other counts are refused.
    rcases numbers with _ | ⟨c, _ | ⟨s, _ | ⟨l, _ | ⟨k, _ | ⟨n, _ | ⟨_, _⟩⟩⟩⟩⟩⟩
    · rfl
    · obtain ⟨hc, hc'⟩ := add?_place (ε := Error) hcolumn (hsmall c (by simp))
      simp only [List.map, Registers.ofSums, hc, hc']
      cases place? .generatedColumn text line (column + c) <;> rfl
    · rfl
    · rfl
    · obtain ⟨hc, hc'⟩ := add?_place (ε := Error) hcolumn (hsmall c (by simp))
      obtain ⟨hs, hs'⟩ := add?_place (ε := Error) hsums.source (hsmall s (by simp))
      obtain ⟨hl, hl'⟩ := add?_place (ε := Error) hsums.line (hsmall l (by simp))
      obtain ⟨hk, hk'⟩ := add?_place (ε := Error) hsums.column (hsmall k (by simp))
      have hname := toInt_place hsums.name
      simp only [List.map, Registers.ofSums, Registers.sums, hc, hc', hs, hs', hl, hl', hk, hk',
        hname]
      cases origin? text line ⟨sums.source + s, sums.line + l, sums.column + k, sums.name⟩ with
      | error e => rfl
      | ok origin => cases place? .generatedColumn text line (column + c) <;> rfl
    · obtain ⟨hc, hc'⟩ := add?_place (ε := Error) hcolumn (hsmall c (by simp))
      obtain ⟨hs, hs'⟩ := add?_place (ε := Error) hsums.source (hsmall s (by simp))
      obtain ⟨hl, hl'⟩ := add?_place (ε := Error) hsums.line (hsmall l (by simp))
      obtain ⟨hk, hk'⟩ := add?_place (ε := Error) hsums.column (hsmall k (by simp))
      obtain ⟨hn, hn'⟩ := add?_place (ε := Error) hsums.name (hsmall n (by simp))
      have hname := toInt_place hsums.name
      simp only [List.map, Registers.ofSums, Registers.sums, hc, hc', hs, hs', hl, hl', hk, hk',
        hn, hn', hname]
      -- The place in the source does not depend on the name.
      have horigin : origin? text line
          ⟨sums.source + s, sums.line + l, sums.column + k, sums.name⟩ = origin? text line
          ⟨sums.source + s, sums.line + l, sums.column + k, sums.name + n⟩ := rfl
      rw [horigin]
      cases origin? text line
        ⟨sums.source + s, sums.line + l, sums.column + k, sums.name + n⟩ with
      | error e => rfl
      | ok origin =>
        cases place? .nameIndex text line (sums.name + n) with
        | error e => rfl
        | ok name => cases place? .generatedColumn text line (column + c) <;> rfl
    · simp

/-- The sums after an accepted segment are places: those that the segment changes are asked about,
and the others are as before. -/
lemma fits_add {column : ℤ} {sums : Sums} {numbers : List ℤ} (hsums : sums.Fits)
    (h : Admits column (sums.add numbers) numbers.length) : (sums.add numbers).Fits := by
  have hsame : ∀ {k : ℕ}, numbers.length ≤ k → numbers.getD k 0 = 0 :=
    fun hk => List.getD_eq_default numbers 0 hk
  by_cases hfour : 4 ≤ numbers.length
  · obtain ⟨hsource, hline, hcolumn⟩ := h.origin hfour
    refine ⟨hsource, hline, hcolumn, ?_⟩
    by_cases hfive : 5 ≤ numbers.length
    · exact h.name hfive
    · have hname : (sums.add numbers).name = sums.name := by
        simp only [Sums.add, hsame (k := 4) (by omega), add_zero]
      rw [hname]
      exact hsums.name
  · have hone : numbers.length = 1 := by
      have hcount := h.count
      omega
    have hall : sums.add numbers = sums := by
      simp only [Sums.add, hsame (k := 1) hone.le, hsame (k := 2) (by omega),
        hsame (k := 3) (by omega), hsame (k := 4) (by omega), add_zero]
    rw [hall]
    exact hsums

/-- The registers after an accepted segment are places. -/
lemma Fits.segment? {line : ℕ} {registers : ℤ × Sums} {text : List Char}
    {r : Segment × ℤ × Sums} (hfits : Fits registers)
    (h : Mappings.segment? line registers.1 registers.2 text = .ok r) : Fits r.2 := by
  obtain ⟨numbers, -, hadmits, rfl⟩ := segment?_eq_ok_iff.mp h
  exact ⟨hadmits.column, fits_add hfits.sums hadmits⟩

/-! ### Texts -/

/-- Sums in words, each operation checked. -/
def checkedSums : Summing Registers (Fault Error) where
  start := ⟨0, 0, 0, 0, 0⟩
  segment? line r text := r.segment? line text
  nextLine r := { r with column := 0 }

/-- How far a text was read, with the registers in words. -/
def Progress.inWords (p : Progress (ℤ × Sums)) : Progress Registers :=
  ⟨p.done, p.current, Registers.ofSums p.registers.1 p.registers.2⟩

/-- Each step leaves the registers places. -/
lemma fits_step {p q : Progress (ℤ × Sums)} {piece : Piece} (hp : Fits p.registers)
    (h : p.step exactSums piece = .ok q) : Fits q.registers := by
  cases piece with
  | comma =>
    obtain rfl : p = q := Except.ok.inj h
    exact hp
  | semicolon =>
    obtain rfl := Except.ok.inj h
    exact ⟨isPlace_natCast (n := 0) (by decide), hp.sums⟩
  | segment text =>
    rw [Progress.step] at h
    split at h
    · cases h
    · next segment registers hsegment =>
      obtain rfl := Except.ok.inj h
      exact hp.segment? hsegment

/-- **One step.**  If all registers are places, words come to what integers come to. -/
lemma step_inWords {p : Progress (ℤ × Sums)} (hp : Fits p.registers) (piece : Piece) :
    p.inWords.step checkedSums piece =
      ((p.step exactSums piece).map Progress.inWords).mapError .invalid := by
  cases piece with
  | comma => rfl
  | semicolon => rfl
  | segment text =>
    have hsegment := segment?_ofSums hp.column hp.sums (p.done.length % lineLimit) text
    simp only [Progress.step, checkedSums, exactSums, Progress.inWords, hsegment]
    cases segment? (p.done.length % lineLimit) p.registers.1 p.registers.2 text <;> rfl

/-- **A run.**  Words come to what integers come to over all pieces. -/
lemma run_inWords {p : Progress (ℤ × Sums)} (hp : Fits p.registers) (ps : List Piece) :
    p.inWords.run checkedSums ps =
      ((p.run exactSums ps).map Progress.inWords).mapError .invalid := by
  induction ps generalizing p with
  | nil => rfl
  | cons piece ps ih =>
    rw [Progress.run_cons, Progress.run_cons, step_inWords hp]
    cases hstep : p.step exactSums piece with
    | error e => rfl
    | ok q => exact ih (fits_step hp hstep)

/-- The registers are places at the start. -/
lemma fits_start : Fits (Progress.start exactSums).registers :=
  ⟨isPlace_natCast (n := 0) (by decide), Sums.fits_start⟩

/-- The registers at the start are zero, in words as in integers. -/
lemma start_inWords : (Progress.start exactSums).inWords = Progress.start checkedSums :=
  rfl

/-- The mappings that a text writes, read with words. -/
def checkedDecode? (text : List Char) : Except (Fault Error) Mappings :=
  ((Progress.start checkedSums).run checkedSums (pieces text)).map Progress.mappings

/-- All registers. -/
def Registers.toList (r : Registers) : List Int64 :=
  [r.column, r.source, r.sourceLine, r.sourceColumn, r.name]

/-- The words of registers that are places are places. -/
lemma isPlace_of_mem_toList {registers : ℤ × Sums} (h : Fits registers) {w : Int64}
    (hw : w ∈ (Registers.ofSums registers.1 registers.2).toList) : IsPlace w.toInt := by
  have hplace : ∀ {a : ℤ}, IsPlace a → IsPlace (Int64.ofInt a).toInt := by
    intro a ha
    rwa [toInt_place ha]
  simp only [Registers.toList, Registers.ofSums, List.mem_cons, List.not_mem_nil, or_false] at hw
  rcases hw with rfl | rfl | rfl | rfl | rfl
  · exact hplace h.column
  · exact hplace h.sums.source
  · exact hplace h.sums.line
  · exact hplace h.sums.column
  · exact hplace h.sums.name

/-- **No operation exceeds.**  Read with words and each operation checked, the numbers of a segment
and the mappings of a text are what they are with integers, and the errors too; and after any pieces
that are read without error, all registers are places of thirty-two bits. -/
theorem checked_eq_exact :
    (∀ segment, (words? segment).map (List.map Int64.toInt) =
      (numbers? segment).mapError .invalid) ∧
    (∀ text, checkedDecode? text = (decode? text).mapError .invalid) ∧
    ∀ ps p, (Progress.start checkedSums).run checkedSums ps = .ok p →
      ∀ w ∈ p.registers.toList, 0 ≤ w.toInt ∧ w.toInt < 2 ^ 32 := by
  have hrun : ∀ ps, (Progress.start checkedSums).run checkedSums ps =
      (((Progress.start exactSums).run exactSums ps).map Progress.inWords).mapError .invalid := by
    intro ps
    rw [← start_inWords]
    exact run_inWords fits_start ps
  refine ⟨?_, ?_, ?_⟩
  · intro segment
    rw [words?_eq]
    cases hnumbers : numbers? segment with
    | error e => rfl
    | ok numbers =>
      have hsame : ∀ n ∈ numbers, (Int64.ofInt n).toInt = n := fun n hn =>
        Word.toInt_ofInt ((natAbs_lt_of_numbers? hnumbers n hn).trans (by decide))
      have hback : (numbers.map Int64.ofInt).map Int64.toInt = numbers := by
        rw [List.map_map]
        exact (List.map_congr_left hsame).trans (List.map_id' numbers)
      simp only [Except.map, Except.mapError, hback]
  · intro text
    rw [checkedDecode?, hrun, decode?_eq_course, course]
    cases (Progress.start exactSums).run exactSums (pieces text) <;> rfl
  · intro ps p hp
    rw [hrun] at hp
    cases hexact : (Progress.start exactSums).run exactSums ps with
    | error e =>
      rw [hexact] at hp
      cases hp
    | ok q =>
      rw [hexact] at hp
      obtain rfl : q.inWords = p := Except.ok.inj hp
      have hq : Fits q.registers :=
        Progress.invariant_run (P := fun r => Fits r.registers)
          (fun _ _ _ hr hstep => fits_step hr hstep) fits_start hexact
      exact fun w hw => isPlace_of_mem_toList hq hw

/-- A text that goes ten columns on and then as far back as a number can. -/
def farBack : List Char := "UAAAA,//////f".toList

/-- The number of the greatest magnitude is read with words, the column that it leads to is out of
range and exceeds nothing, and the registers in front of it are places. -/
theorem checked_farBack :
    (words? "//////f".toList).map (List.map Int64.toInt) = .ok [-(2 ^ 34 - 1)] ∧
      checkedDecode? farBack =
        .error (.invalid (.outOfRange .generatedColumn "//////f" 0)) ∧
      ∀ w ∈ (Registers.mk 10 0 0 0 0).toList, 0 ≤ w.toInt ∧ w.toInt < 2 ^ 32 := by
  have hnumbers : numbers? "//////f".toList = .ok [-(2 ^ 34 - 1)] := by cbv
  have hdecode : decode? farBack = .error (.outOfRange .generatedColumn "//////f" 0) := by cbv
  have hrun : (Progress.start checkedSums).run checkedSums [.segment "UAAAA".toList] =
      .ok ⟨[], [⟨0, 10, some ⟨0, 0, 0⟩, some 0⟩], ⟨10, 0, 0, 0, 0⟩⟩ := by cbv
  obtain ⟨hwords, hchecked, hplaces⟩ := checked_eq_exact
  refine ⟨?_, ?_, hplaces _ _ hrun⟩
  · rw [hwords, hnumbers]
    rfl
  · rw [hchecked, hdecode]
    rfl

end Mappings

end Retrace
