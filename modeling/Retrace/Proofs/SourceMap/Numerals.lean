import Mathlib
import Retrace.Proofs.SourceMap.RoundTrip

/-!
# The numerals of a text

What texts are taken for numbers, told without the reader.  A *numeral* is a sequence of base64
digits: at most six that say that more follow, and one that ends it.  It carries five bits with each
digit, the lowest ones first, and the lowest of all is the sign (`Numeral.value`).

A text is read from the left (`Reads`).  If it consists of numerals it gives their values.  If not,
there are numerals and then the digits of one that does not end, and what stands behind these decides
about the error: behind seven digits any byte is one too many, behind fewer a byte that is no digit
is reported, and otherwise the text ends within the number.

`decode?_eq_iff_reads` says that this is what `Vlq.decode?` gives for every byte string, and
`numbers?_eq_iff` what is made of it for the text of a segment. `length_encodeOne_le` says that
`Vlq.encodeOne` writes the shortest of all numerals of a number.
-/

namespace Retrace

namespace Base64

/-- A byte that is read as a digit is the symbol of this digit. -/
lemma symbol_of_digit? {b : UInt8} {d : ℕ} (h : digit? b = some d) : d < 64 ∧ symbol d = b := by
  have hall : ∀ b : UInt8, ∀ d ∈ digit? b, d < 64 ∧ symbol d = b := by decide +kernel
  exact hall b d h

/-- The bytes that are no digits are those that are the symbol of none. -/
lemma digit?_eq_none_iff {b : UInt8} : digit? b = none ↔ ∀ d < 64, b ≠ symbol d := by
  constructor
  · rintro hnone d hd rfl
    rw [digit?_symbol hd] at hnone
    cases hnone
  · intro hne
    cases hdigit : digit? b with
    | none => rfl
    | some d =>
      obtain ⟨hd, hb⟩ := symbol_of_digit? hdigit
      exact absurd hb.symm (hne d hd)

/-- The symbols in the order of their digits. -/
example : (List.range 64).map symbol =
    Utf8.ofString "ABCDEFGHIJKLMNOPQRSTUVWXYZabcdefghijklmnopqrstuvwxyz0123456789+/" := by
  decide +kernel

end Base64

namespace Vlq

/-! ### Numerals -/

/-- The digits of a number by the five bits that each of them carries: those that say that more
digits follow, and the one that ends the number. -/
structure Numeral where
  front : List (Fin 32)
  last : Fin 32
  length_front_le : front.length ≤ 6

/-- Digits that say that more digits follow. -/
def marked (front : List (Fin 32)) : Bytes :=
  front.map fun d : Fin 32 => Base64.symbol ((d : ℕ) + 32)

/-- The text of a numeral. -/
def Numeral.text (n : Numeral) : Bytes := marked n.front ++ [Base64.symbol n.last]

/-- The bits of digits, those of the first one lowest. -/
def bitsOf (ds : List (Fin 32)) : ℕ := Nat.ofDigits 32 (ds.map Fin.val)

/-- The number that a numeral stands for. -/
def Numeral.value (n : Numeral) : ℤ := ofSigned (bitsOf (n.front ++ [n.last]))

/-- So many digits carry five times as many bits. -/
lemma bitsOf_lt (ds : List (Fin 32)) : bitsOf ds < 32 ^ ds.length := by
  have hlt : bitsOf ds < 32 ^ (ds.map Fin.val).length := by
    refine Nat.ofDigits_lt_base_pow_length (by decide) ?_
    intro d hd
    obtain ⟨e, -, rfl⟩ := List.mem_map.mp hd
    exact e.isLt
  rwa [List.length_map] at hlt

/-- One more digit carries its bits above those of the digits before it. -/
lemma bitsOf_concat (ds : List (Fin 32)) (d : Fin 32) :
    bitsOf (ds ++ [d]) = bitsOf ds + (d : ℕ) <<< (5 * ds.length) := by
  have hpow : 32 ^ ds.length = 2 ^ (5 * ds.length) := by
    rw [pow_mul]
    rfl
  rw [bitsOf, List.map_append, Nat.ofDigits_append, List.length_map, hpow, Nat.shiftLeft_eq,
    Nat.mul_comm]
  simp [bitsOf]

/-- A number of so many bits, the sign included, has a magnitude of one bit less. -/
lemma natAbs_ofSigned (bits : ℕ) : (ofSigned bits).natAbs = bits / 2 := by
  unfold ofSigned
  split <;> omega

/-- Written with its sign, the number of some bits is not greater than they are: the two differ for
the negative zero alone. -/
lemma toSigned_ofSigned_le (bits : ℕ) : toSigned (ofSigned bits) ≤ bits := by
  unfold toSigned ofSigned
  split <;> split <;> omega

/-- Every numeral stands for a number of a magnitude below `2 ^ 34`. -/
lemma Numeral.natAbs_value_lt (n : Numeral) : n.value.natAbs < 2 ^ 34 := by
  have hlength : (n.front ++ [n.last]).length ≤ 7 := by
    have hfront := n.length_front_le
    simp only [List.length_append, List.length_singleton]
    omega
  have hbits : bitsOf (n.front ++ [n.last]) < 2 ^ 35 :=
    calc bitsOf (n.front ++ [n.last]) < 32 ^ (n.front ++ [n.last]).length := bitsOf_lt _
      _ ≤ 32 ^ 7 := Nat.pow_le_pow_right (by decide) hlength
      _ = 2 ^ 35 := by decide
  rw [Numeral.value, natAbs_ofSigned]
  omega

/-- **Fewest digits.**  No numeral of a number is shorter than the one that is written for it. -/
theorem length_encodeOne_le (n : Numeral) : (encodeOne n.value).length ≤ n.text.length := by
  have hbits : toSigned n.value < 32 ^ (n.front.length + 1) :=
    calc toSigned n.value ≤ bitsOf (n.front ++ [n.last]) := toSigned_ofSigned_le _
      _ < 32 ^ (n.front ++ [n.last]).length := bitsOf_lt _
      _ = 32 ^ (n.front.length + 1) := by rw [List.length_append, List.length_singleton]
  have hgroups : (groups (toSigned n.value)).length ≤ n.front.length + 1 := length_groups_le hbits
  have htext : n.text.length = n.front.length + 1 := by
    simp [Numeral.text, marked]
  rw [encodeOne, List.length_map, htext]
  exact hgroups

/-! ### What a text gives -/

/-- The text of numerals. -/
def numeralsText (ns : List Numeral) : Bytes := ns.flatMap Numeral.text

/-- What a byte string gives that is read for numbers, from the left. -/
inductive Reads : Bytes → Except Error (List ℤ) → Prop
  /-- Numerals give their values. -/
  | numbers (ns : List Numeral) : Reads (numeralsText ns) (.ok (ns.map Numeral.value))
  /-- The text ends within a number. -/
  | truncated (ns : List Numeral) (front : List (Fin 32)) (hfront : front ≠ [])
      (hlength : front.length ≤ 7) :
      Reads (numeralsText ns ++ marked front) (.error .truncated)
  /-- Seven digits say that more follow, whatever the next byte is. -/
  | overflow (ns : List Numeral) (front : List (Fin 32)) (hlength : front.length = 7) (b : UInt8)
      (rest : Bytes) :
      Reads (numeralsText ns ++ (marked front ++ b :: rest)) (.error .overflow)
  /-- A byte that is no digit, where one more digit could stand. -/
  | badDigit (ns : List Numeral) (front : List (Fin 32)) (hlength : front.length ≤ 6) {b : UInt8}
      (hb : ∀ d < 64, b ≠ Base64.symbol d) (rest : Bytes) :
      Reads (numeralsText ns ++ (marked front ++ b :: rest)) (.error (.badDigit b))

/-- A numeral in front of a text gives one more number, unless the text is in error. -/
lemma Reads.cons (n : Numeral) {text : Bytes} {r : Except Error (List ℤ)} (h : Reads text r) :
    Reads (n.text ++ text) (r.map (n.value :: ·)) := by
  cases h with
  | numbers ns => exact Reads.numbers (n :: ns)
  | truncated ns front hfront hlength =>
    rw [← List.append_assoc]
    exact Reads.truncated (n :: ns) front hfront hlength
  | overflow ns front hlength b rest =>
    rw [← List.append_assoc]
    exact Reads.overflow (n :: ns) front hlength b rest
  | badDigit ns front hlength hb rest =>
    rw [← List.append_assoc]
    exact Reads.badDigit (n :: ns) front hlength hb rest

/-- All numbers that are read have a magnitude below `2 ^ 34`. -/
lemma Reads.natAbs_lt {text : Bytes} {numbers : List ℤ} (h : Reads text (.ok numbers)) :
    ∀ n ∈ numbers, n.natAbs < 2 ^ 34 := by
  cases h with
  | numbers ns =>
    intro n hn
    obtain ⟨numeral, -, rfl⟩ := List.mem_map.mp hn
    exact numeral.natAbs_value_lt

/-- One more digit stands behind those that say that more follow. -/
lemma marked_concat (front : List (Fin 32)) (d : Fin 32) :
    marked (front ++ [d]) = marked front ++ [Base64.symbol ((d : ℕ) + 32)] := by
  simp [marked]

/-- From within a number the reader gives what the whole text gives, the digits included that were
read before. -/
lemma reads_decodeFrom (front : List (Fin 32)) (hlength : front.length ≤ 7) (text : Bytes) :
    Reads (marked front ++ text) (decodeFrom front.length (bitsOf front) text) := by
  induction text generalizing front with
  | nil =>
    rw [decodeFrom, List.append_nil]
    by_cases hfront : front = []
    · subst hfront
      exact Reads.numbers []
    · rw [if_neg (by simpa using hfront)]
      exact Reads.truncated [] front hfront hlength
  | cons b rest ih =>
    rw [decodeFrom]
    by_cases hfull : maxDigits ≤ front.length
    · rw [if_pos hfull]
      exact Reads.overflow [] front (le_antisymm hlength hfull) b rest
    · have hroom : front.length ≤ 6 := by
        unfold maxDigits at hfull
        omega
      rw [if_neg hfull]
      cases hdigit : Base64.digit? b with
      | none => exact Reads.badDigit [] front hroom (Base64.digit?_eq_none_iff.mp hdigit) rest
      | some digit =>
        obtain ⟨hdigitLt, rfl⟩ := Base64.symbol_of_digit? hdigit
        obtain ⟨d, hd⟩ : ∃ d : Fin 32, (d : ℕ) = digit % 32 :=
          ⟨⟨digit % 32, Nat.mod_lt digit (by decide)⟩, rfl⟩
        simp only [← hd, ← bitsOf_concat]
        by_cases hlast : digit < 32
        · -- The digit ends the number, and what follows is read from its start.
          have hsymbol : (d : ℕ) = digit := hd.trans (Nat.mod_eq_of_lt hlast)
          have hrest := Reads.cons ⟨front, d, hroom⟩ (ih [] (by decide))
          rw [if_pos hlast]
          simpa [Numeral.text, Numeral.value, marked, bitsOf, hsymbol] using hrest
        · -- The digit is one more of those that say that more follow.
          have hsymbol : (d : ℕ) + 32 = digit := by omega
          have hrest := ih (front ++ [d]) (by simpa using Nat.succ_le_succ hroom)
          rw [if_neg hlast]
          simpa [marked_concat, hsymbol] using hrest

/-- Digits that say that more follow are read into the bits, if they do not exceed the limit. -/
lemma decodeFrom_marked (before front : List (Fin 32)) (rest : Bytes)
    (h : before.length + front.length ≤ maxDigits) :
    decodeFrom before.length (bitsOf before) (marked front ++ rest) =
      decodeFrom (before ++ front).length (bitsOf (before ++ front)) rest := by
  induction front generalizing before with
  | nil =>
    rw [List.append_nil]
    rfl
  | cons d front ih =>
    rw [List.length_cons] at h
    have hroom : ¬ maxDigits ≤ before.length := by omega
    have hd : (d : ℕ) < 32 := d.isLt
    have hdigit : Base64.digit? (Base64.symbol ((d : ℕ) + 32)) = some ((d : ℕ) + 32) :=
      Base64.digit?_symbol (Nat.add_lt_add_right hd 32)
    have hlow : ((d : ℕ) + 32) % 32 = d := by omega
    have hmore : ¬ (d : ℕ) + 32 < 32 := by omega
    have hrest := ih (before ++ [d]) (by simp; omega)
    rw [bitsOf_concat] at hrest
    simp only [List.length_append, List.length_singleton, List.append_assoc,
      List.singleton_append] at hrest
    rw [marked, List.map_cons, List.cons_append, decodeFrom, if_neg hroom]
    simp only [hdigit, hlow, if_neg hmore]
    rw [List.length_append]
    exact hrest

/-- Numerals are read as their values. -/
lemma decodeFrom_numeralsText (ns : List Numeral) (rest : Bytes) :
    decodeFrom 0 0 (numeralsText ns ++ rest) =
      (decodeFrom 0 0 rest).map (ns.map Numeral.value ++ ·) := by
  induction ns with
  | nil => cases h : decodeFrom 0 0 rest <;> simp [numeralsText, h, Except.map]
  | cons n ns ih =>
    have hroom : ¬ maxDigits ≤ n.front.length := by
      have hfront := n.length_front_le
      unfold maxDigits
      omega
    have hdigit : Base64.digit? (Base64.symbol n.last) = some (n.last : ℕ) :=
      Base64.digit?_symbol (by omega)
    have hlow : (n.last : ℕ) % 32 = n.last := Nat.mod_eq_of_lt n.last.isLt
    have hfront := decodeFrom_marked [] n.front
      (Base64.symbol n.last :: (numeralsText ns ++ rest)) (by simpa using le_of_not_ge hroom)
    have htext : numeralsText (n :: ns) ++ rest =
        marked n.front ++ Base64.symbol n.last :: (numeralsText ns ++ rest) := by
      simp [numeralsText, Numeral.text]
    rw [List.nil_append] at hfront
    rw [htext]
    refine hfront.trans ?_
    rw [decodeFrom, if_neg hroom]
    simp only [hdigit, hlow, if_pos n.last.isLt, ih, ← bitsOf_concat]
    cases decodeFrom 0 0 rest <;> rfl

/-- **The grammar of numbers.**  What a byte string is read as is what its numerals and the first
byte that offends say. -/
theorem decode?_eq_iff_reads {text : Bytes} {r : Except Error (List ℤ)} :
    decode? text = r ↔ Reads text r := by
  constructor
  · rintro rfl
    exact reads_decodeFrom [] (by decide) text
  · intro h
    have hnone : ∀ front : List (Fin 32), front.length ≤ maxDigits → ∀ rest,
        decodeFrom 0 0 (marked front ++ rest) = decodeFrom front.length (bitsOf front) rest :=
      fun front hlength rest =>
        decodeFrom_marked [] front rest (by simpa using hlength)
    unfold decode?
    cases h with
    | numbers ns =>
      have hns := decodeFrom_numeralsText ns []
      rw [List.append_nil] at hns
      rw [hns]
      simp [decodeFrom, Except.map]
    | truncated ns front hfront hlength =>
      have hread := hnone front hlength []
      rw [List.append_nil] at hread
      rw [decodeFrom_numeralsText, hread, decodeFrom, if_neg (by simpa using hfront)]
      rfl
    | overflow ns front hlength b rest =>
      have hfull : maxDigits ≤ front.length := hlength.ge
      rw [decodeFrom_numeralsText, hnone _ hlength.le, decodeFrom, if_pos hfull]
      rfl
    | badDigit ns front hlength hb rest =>
      have hroom : ¬ maxDigits ≤ front.length := Nat.not_le.mpr (Nat.lt_succ_of_le hlength)
      rw [decodeFrom_numeralsText, hnone _ (hlength.trans (by decide)), decodeFrom, if_neg hroom,
        Base64.digit?_eq_none_iff.mpr hb]
      rfl

end Vlq

namespace Mappings

/-- What the text of a segment gives is what its bytes give, with the text in the error. -/
lemma numbers?_eq_iff {text : List Char} {r : Except Error (List ℤ)} :
    numbers? text = r ↔
      ∃ q, Vlq.Reads (Utf8.encode text) q ∧ r = q.mapError (Error.ofVlq text) := by
  have hmap : numbers? text = (Vlq.decode? (Utf8.encode text)).mapError (Error.ofVlq text) := by
    rw [numbers?]
    cases Vlq.decode? (Utf8.encode text) <;> rfl
  rw [hmap]
  constructor
  · rintro rfl
    exact ⟨_, Vlq.decode?_eq_iff_reads.mp rfl, rfl⟩
  · rintro ⟨q, hq, rfl⟩
    rw [Vlq.decode?_eq_iff_reads.mpr hq]

/-- The numbers of a segment have a magnitude below `2 ^ 34`. -/
lemma natAbs_lt_of_numbers? {text : List Char} {numbers : List ℤ}
    (h : numbers? text = .ok numbers) : ∀ n ∈ numbers, n.natAbs < 2 ^ 34 := by
  obtain ⟨q, hq, hr⟩ := numbers?_eq_iff.mp h
  cases q with
  | error e => cases hr
  | ok values =>
    obtain rfl : numbers = values := Except.ok.inj hr
    exact hq.natAbs_lt

/-- The text of numbers with few digits reads back. -/
lemma numbers?_textOf {numbers : List ℤ} (h : ∀ n ∈ numbers, n.natAbs < 2 ^ 34) :
    numbers? (textOf numbers) = .ok numbers := by
  rw [numbers?, textOf, Vlq.encode_map_toChar, Vlq.decode?_encode h]

/-- **The numbers of a segment.**  The text of a segment gives what its numerals and the first byte
that offends say; all numbers that it gives have a magnitude below `2 ^ 34`; and numbers of such a
magnitude are read from their text, in which each is written as the shortest of its numerals. -/
theorem numbers?_grammar :
    (∀ (text : List Char) (r : Except Error (List ℤ)),
      numbers? text = r ↔
        ∃ q, Vlq.Reads (Utf8.encode text) q ∧ r = q.mapError (Error.ofVlq text)) ∧
    (∀ (text : List Char) (numbers : List ℤ),
      numbers? text = .ok numbers → ∀ n ∈ numbers, n.natAbs < 2 ^ 34) ∧
    (∀ numbers : List ℤ, (∀ n ∈ numbers, n.natAbs < 2 ^ 34) →
      numbers? (textOf numbers) = .ok numbers) ∧
    ∀ n : Vlq.Numeral, (Vlq.encodeOne n.value).length ≤ n.text.length := by
  refine ⟨?_, ?_, ?_, ?_⟩
  · intro text r
    exact numbers?_eq_iff
  · intro text numbers h
    exact natAbs_lt_of_numbers? h
  · intro numbers h
    exact numbers?_textOf h
  · intro n
    exact Vlq.length_encodeOne_le n

/-- Numbers of the greatest magnitude and small ones, on both sides of zero. -/
def extremes : List ℤ := [2 ^ 34 - 1, -(2 ^ 34 - 1), 0, -16]

/-- The numbers of `extremes` read back, and behind seven digits that say that more follow the byte
that is no digit is one digit too many. -/
theorem numbers?_extremes :
    (∀ n ∈ extremes, n.natAbs < 2 ^ 34) ∧ numbers? (textOf extremes) = .ok extremes ∧
      numbers? "Aggggggg!".toList = .error (.overflow "Aggggggg!") := by
  have hread : numbers? (textOf extremes) = .ok extremes :=
    numbers?_grammar.2.2.1 extremes (by decide)
  refine ⟨numbers?_grammar.2.1 _ _ hread, hread, ?_⟩
  refine (numbers?_grammar.1 _ _).mpr ⟨.error .overflow, ?_, by simp [Except.mapError, Error.ofVlq]⟩
  exact Vlq.Reads.overflow [⟨[], 0, by decide⟩] (List.replicate 7 0) (by decide) 33 []

end Mappings

end Retrace
