import Mathlib
import Retrace.Proofs.Text.Base64
import Retrace.Proofs.Text.Utf8
import Retrace.SourceMap.Vlq

/-!
# Numbers read back from their digits

`Vlq.encode` writes a number with the fewest digits, and `Vlq.decode?` takes at most seven digits
for a number.  Seven digits carry thirty-five bits, one of which is the sign, so that
`decode?_encode` holds for all numbers of a magnitude below `2 ^ 34`.

The digits are ASCII characters other than the comma and the semicolon, so that the text of a number
can stand in the text of a map: `encode_map_toChar` and `not_separator`.
-/

namespace Retrace

namespace Vlq

/-! ### Digits -/

/-- The digits of a number are values of base64 digits. -/
lemma lt_of_mem_groups {bits d : ℕ} (h : d ∈ groups bits) : d < 64 := by
  induction bits using groups.induct with
  | case1 bits hlt =>
    rw [groups, if_pos hlt, List.mem_singleton] at h
    omega
  | case2 bits hge ih =>
    rw [groups, if_neg hge, List.mem_cons] at h
    rcases h with rfl | h
    · omega
    · exact ih h

/-- A number below `32 ^ (n + 1)` has at most `n + 1` digits. -/
lemma length_groups_le {bits n : ℕ} (h : bits < 32 ^ (n + 1)) : (groups bits).length ≤ n + 1 := by
  induction n generalizing bits with
  | zero =>
    have hlt : bits < 32 := by simpa using h
    rw [groups, if_pos hlt]
    simp
  | succ n ih =>
    rw [groups]
    split
    · simp
    · have hdiv : bits / 32 < 32 ^ (n + 1) := by
        rw [Nat.div_lt_iff_lt_mul (by decide)]
        calc bits < 32 ^ (n + 1 + 1) := h
          _ = 32 ^ (n + 1) * 32 := pow_succ 32 (n + 1)
      have hlen := ih hdiv
      rw [List.length_cons]
      omega

/-- A number has at least one digit. -/
lemma groups_ne_nil (bits : ℕ) : groups bits ≠ [] := by
  rw [groups]
  split <;> simp

/-- Each digit is worth thirty-two times as much as the one before it. -/
lemma two_pow_next (count : ℕ) : 2 ^ (5 * (count + 1)) = 32 * 2 ^ (5 * count) := by
  rw [show 5 * (count + 1) = 5 + 5 * count by ring, pow_add]
  rfl

/-- Reading the digits of a number adds it to the bits read before, if its digits do not exceed
the limit. -/
lemma decodeFrom_groups (count bits value : ℕ) (rest : Bytes)
    (h : count + (groups value).length ≤ maxDigits) :
    decodeFrom count bits ((groups value).map Base64.symbol ++ rest) =
      (decodeFrom 0 0 rest).map (ofSigned (bits + value <<< (5 * count)) :: ·) := by
  induction value using groups.induct generalizing count bits with
  | case1 value hlt =>
    rw [groups, if_pos hlt] at h ⊢
    have hcount : ¬ maxDigits ≤ count := by
      rw [List.length_singleton] at h
      omega
    have hdigit : Base64.digit? (Base64.symbol value) = some value :=
      Base64.digit?_symbol (by omega)
    rw [List.map_singleton, List.singleton_append, decodeFrom, if_neg hcount]
    simp only [hdigit, Nat.mod_eq_of_lt hlt, if_pos hlt]
  | case2 value hge ih =>
    rw [groups, if_neg hge] at h ⊢
    rw [List.length_cons] at h
    have hpos : 0 < (groups (value / 32)).length := List.length_pos_of_ne_nil (groups_ne_nil _)
    have hcount : ¬ maxDigits ≤ count := by omega
    have hdigit : Base64.digit? (Base64.symbol (value % 32 + 32)) = some (value % 32 + 32) :=
      Base64.digit?_symbol (by omega)
    have hlow : (value % 32 + 32) % 32 = value % 32 := by omega
    have hmore : ¬ value % 32 + 32 < 32 := by omega
    -- The low digit stands at its place, and the others five bits further on.
    have hbits : bits + (value % 32) <<< (5 * count) + (value / 32) <<< (5 * (count + 1)) =
        bits + value <<< (5 * count) := by
      simp only [Nat.shiftLeft_eq]
      rw [two_pow_next, add_assoc, ← mul_assoc, ← add_mul, Nat.mul_comm (value / 32) 32,
        Nat.mod_add_div]
    rw [List.map_cons, List.cons_append, decodeFrom, if_neg hcount]
    simp only [hdigit, hlow, if_neg hmore]
    rw [ih (count + 1) _ (by omega), hbits]

/-! ### Numbers -/

/-- A number of a magnitude below `2 ^ 34` has at most seven digits. -/
lemma length_groups_toSigned_le {n : ℤ} (h : n.natAbs < 2 ^ 34) :
    (groups (toSigned n)).length ≤ maxDigits := by
  have hlt : toSigned n < 32 ^ (6 + 1) := by
    unfold toSigned
    split <;> omega
  exact length_groups_le hlt

/-- Reading the digits of one number gives the number and goes on with what follows. -/
lemma decodeFrom_encodeOne {n : ℤ} (h : n.natAbs < 2 ^ 34) (rest : Bytes) :
    decodeFrom 0 0 (encodeOne n ++ rest) = (decodeFrom 0 0 rest).map (n :: ·) := by
  have hlen : 0 + (groups (toSigned n)).length ≤ maxDigits := by
    rw [zero_add]
    exact length_groups_toSigned_le h
  rw [encodeOne, decodeFrom_groups 0 0 _ rest hlen]
  simp

/-- **Numbers read back.**  The digits of numbers of a magnitude below `2 ^ 34` give the numbers. -/
theorem decode?_encode {numbers : List ℤ} (h : ∀ n ∈ numbers, n.natAbs < 2 ^ 34) :
    decode? (encode numbers) = .ok numbers := by
  unfold decode? encode
  induction numbers with
  | nil => rfl
  | cons n rest ih =>
    rw [List.flatMap_cons, decodeFrom_encodeOne (h n List.mem_cons_self),
      ih fun k hk => h k (List.mem_cons_of_mem n hk)]
    rfl

/-! ### Characters -/

/-- The character of a byte that is ASCII. -/
def toChar (b : UInt8) : Char := Char.ofNat b.toNat

/-- Every byte of the text of numbers is a base64 digit. -/
lemma exists_symbol_of_mem_encode {numbers : List ℤ} {b : UInt8} (h : b ∈ encode numbers) :
    ∃ d < 64, b = Base64.symbol d := by
  obtain ⟨n, -, hb⟩ := List.mem_flatMap.mp h
  obtain ⟨d, hd, rfl⟩ := List.mem_map.mp hb
  exact ⟨d, lt_of_mem_groups hd, rfl⟩

/-- A base64 digit is neither of the separators of a text of mappings. -/
lemma toChar_symbol_ne {d : ℕ} (h : d < 64) :
    toChar (Base64.symbol d) ≠ ',' ∧ toChar (Base64.symbol d) ≠ ';' := by
  revert d
  decide

/-- Written as characters, the digits of numbers are the same bytes again. -/
lemma encode_map_toChar (numbers : List ℤ) :
    Utf8.encode ((encode numbers).map toChar) = encode numbers := by
  refine Utf8.encode_asciiText fun b hb => ?_
  obtain ⟨d, hd, rfl⟩ := exists_symbol_of_mem_encode hb
  exact Base64.symbol_lt hd

/-- No separator stands in the text of numbers. -/
lemma not_separator {numbers : List ℤ} {c : Char} (h : c ∈ (encode numbers).map toChar) :
    c ≠ ',' ∧ c ≠ ';' := by
  obtain ⟨b, hb, rfl⟩ := List.mem_map.mp h
  obtain ⟨d, hd, rfl⟩ := exists_symbol_of_mem_encode hb
  exact toChar_symbol_ne hd

/-- The text of at least one number is not empty. -/
lemma encode_ne_nil {numbers : List ℤ} (h : numbers ≠ []) : encode numbers ≠ [] := by
  obtain ⟨n, rest, rfl⟩ := List.exists_cons_of_ne_nil h
  have hone : encodeOne n ≠ [] := by
    rw [encodeOne, ne_eq, List.map_eq_nil_iff]
    exact groups_ne_nil _
  rw [encode, List.flatMap_cons, ne_eq, List.append_eq_nil_iff, not_and_or]
  exact Or.inl hone

end Vlq

end Retrace
