import Mathlib
import Retrace.Proofs.Text.Lines
import Retrace.Proofs.Text.Parts
import Retrace.Url.Address

/-!
# Internet addresses read back

The text of an address is read as the address: `ipv4?_ipv4Text` for addresses of four bytes and
`ipv6?_ipv6Text` for those of eight pieces. In the text of the latter no two colons stand next to
each other, except where the longest run of zeros is left out; so the run is found again, and it is
as long as the pieces that are missing.
-/

namespace Retrace

namespace Url

namespace Address

variable {n : ℕ} {text name : List Char} {pieces : List ℕ} {c : Char}

/-! ### Digits -/

/-- A hexadecimal digit is read as its value. -/
lemma digit?_digitChar : ∀ d < 16, digit? 16 (Nat.digitChar d) = some d := by decide

/-- A further digit at the end. -/
lemma value?_concat {base value d : ℕ} (htext : value? base text = some value)
    (hc : digit? base c = some d) : value? base (text ++ [c]) = some (value * base + d) := by
  rw [value?, List.foldl_append]
  rw [value?] at htext
  rw [htext]
  simp only [List.foldl_cons, List.foldl_nil, hc]

/-- The digits of a number are read as the number. -/
lemma value?_toDigits (n : ℕ) : value? 16 (Nat.toDigits 16 n) = some n := by
  induction n using Nat.strong_induction_on with
  | _ n ih =>
    by_cases hn : n < 16
    · rw [Nat.toDigits_of_lt_base hn]
      have hempty : value? 16 [] = some 0 := rfl
      have hsingle := value?_concat hempty (digit?_digitChar n hn)
      rwa [Nat.zero_mul, Nat.zero_add] at hsingle
    · rw [not_lt] at hn
      have hdiv : n / 16 < n := Nat.div_lt_self (by omega) (by decide)
      have hmod : n % 16 < 16 := Nat.mod_lt _ (by decide)
      rw [Nat.toDigits_of_base_le (by decide) hn, value?_concat (ih _ hdiv) (digit?_digitChar _ hmod),
        Nat.div_add_mod']

/-- The digits of a number in a base up to sixteen. -/
lemma mem_toDigits {base : ℕ} (hbase : 1 < base) (hle : base ≤ 16) (h : c ∈ Nat.toDigits base n) :
    ∃ d < base, c = Nat.digitChar d := by
  induction n using Nat.strong_induction_on with
  | _ n ih =>
    by_cases hn : n < base
    · rw [Nat.toDigits_of_lt_base hn, List.mem_singleton] at h
      exact ⟨n, hn, h⟩
    · rw [not_lt] at hn
      rw [Nat.toDigits_of_base_le hbase hn] at h
      rcases List.mem_append.mp h with h | h
      · exact ih _ (Nat.div_lt_self (by omega) hbase) h
      · exact ⟨n % base, Nat.mod_lt _ (by omega), List.mem_singleton.mp h⟩

/-- No digit is one of the signs between numbers, and those below ten are decimal. -/
lemma digit_plain : ∀ d < 16, Nat.digitChar d ≠ '.' ∧ Nat.digitChar d ≠ ':' ∧
    (d < 10 → '0' ≤ Nat.digitChar d ∧ Nat.digitChar d ≤ '9') := by
  decide

/-- A number below a power of sixteen has no more hexadecimal digits than the exponent. -/
lemma length_toDigits_le {k : ℕ} (h : n < 16 ^ (k + 1)) : (Nat.toDigits 16 n).length ≤ k + 1 := by
  induction k generalizing n with
  | zero =>
    rw [Nat.toDigits_of_lt_base (by simpa using h)]
    exact le_rfl
  | succ k ih =>
    by_cases hn : n < 16
    · rw [Nat.toDigits_of_lt_base hn]
      simp
    · rw [Nat.toDigits_of_base_le (by decide) (by omega), List.length_append]
      have hdiv : n / 16 < 16 ^ (k + 1) := by
        rw [Nat.div_lt_iff_lt_mul (by decide), ← pow_succ]
        exact h
      have := ih hdiv
      simp only [List.length_singleton]
      omega

/-! ### Addresses of four bytes -/

/-- The bytes of an address. -/
def bytes (address : ℕ) : List ℕ :=
  [address >>> 24 % 256, address >>> 16 % 256, address >>> 8 % 256, address % 256]

/-- A byte in decimal is read as the byte. -/
lemma number?_byte : ∀ b < 256, number? (Nat.toDigits 10 b) = some b := by
  decide +kernel

/-- The bytes of an address keep below their bound. -/
lemma bytes_lt (address : ℕ) : ∀ b ∈ bytes address, b < 256 := by
  intro b hb
  simp only [bytes, List.mem_cons, List.not_mem_nil, or_false] at hb
  rcases hb with rfl | rfl | rfl | rfl <;> exact Nat.mod_lt _ (by decide)

/-- The characters of a number in decimal are decimal digits. -/
lemma decimal_plain {b : ℕ} (h : c ∈ Nat.toDigits 10 b) : '0' ≤ c ∧ c ≤ '9' ∧ c ≠ '.' := by
  obtain ⟨d, hd, rfl⟩ := mem_toDigits (by decide) (by decide) h
  have hplain := digit_plain d (by omega)
  exact ⟨(hplain.2.2 hd).1, (hplain.2.2 hd).2, hplain.1⟩

/-- The text of an address is that of its bytes, with full stops in between. -/
lemma ipv4Text_eq (address : ℕ) :
    ipv4Text address = Text.joinWith ['.'] ((bytes address).map (Nat.toDigits 10)) := rfl

/-- The characters of an address of four bytes. -/
lemma mem_ipv4Text {address : ℕ} (h : c ∈ ipv4Text address) : c = '.' ∨ '0' ≤ c ∧ c ≤ '9' := by
  rw [ipv4Text_eq] at h
  rcases Text.mem_joinWith h with h | ⟨part, hpart, h⟩
  · exact .inl (List.mem_singleton.mp h)
  · obtain ⟨b, -, rfl⟩ := List.mem_map.mp hpart
    have hplain := decimal_plain h
    exact .inr ⟨hplain.1, hplain.2.1⟩

/-- The full stops of that text stand between the bytes and nowhere else. -/
lemma splitOn_ipv4Text (address : ℕ) :
    Text.splitOn '.' (ipv4Text address) = (bytes address).map (Nat.toDigits 10) := by
  rw [ipv4Text_eq]
  apply Text.splitOn_joinWith
  · simp [bytes]
  · intro part hpart hmem
    obtain ⟨b, -, rfl⟩ := List.mem_map.mp hpart
    exact (decimal_plain hmem).2.2 rfl

/-- As a domain name the text has the bytes for its parts. -/
lemma parts_ipv4Text (address : ℕ) :
    parts (ipv4Text address) = (bytes address).map (Nat.toDigits 10) := by
  have hlast : ((bytes address).map (Nat.toDigits 10)).getLast? ≠ some [] := by
    simp [bytes]
  unfold parts
  simp only [splitOn_ipv4Text, if_neg hlast]

/-- The text of an address ends in a number. -/
lemma endsInNumber_ipv4Text (address : ℕ) : endsInNumber (ipv4Text address) = true := by
  have hall : (Nat.toDigits 10 (address % 256)).all (fun c => '0' ≤ c && c ≤ '9') = true := by
    rw [List.all_eq_true]
    intro c hc
    have hplain := decimal_plain hc
    simp [hplain.1, hplain.2.1]
  have hlast : (parts (ipv4Text address)).getLast? = some (Nat.toDigits 10 (address % 256)) := by
    rw [parts_ipv4Text]
    rfl
  unfold endsInNumber
  rw [hlast]
  simp [hall]

/-- The bytes of an address make up the address. -/
lemma ofNumbers?_bytes {address : ℕ} (h : address < 2 ^ 32) :
    ofNumbers? (bytes address) = some address := by
  simp only [bytes, ofNumbers?, Nat.shiftRight_eq_div_pow, Nat.shiftLeft_eq,
    List.getLast?_cons_cons, List.getLast?_singleton, List.dropLast, List.length_cons,
    List.length_nil, List.all_cons, List.all_nil, List.foldl_cons, List.foldl_nil]
  rw [if_pos]
  · refine congrArg some ?_
    omega
  · have hbyte : ∀ m, m % 256 ≤ 255 := fun m => by omega
    simp [hbyte, Nat.mod_lt]

/-- **Addresses of four bytes read back.** -/
theorem ipv4?_ipv4Text {address : ℕ} (h : address < 2 ^ 32) :
    ipv4? (ipv4Text address) = some address := by
  have hlength : ¬ 4 < ((bytes address).map (Nat.toDigits 10)).length := by simp [bytes]
  have hnumbers : ((bytes address).map (Nat.toDigits 10)).mapM number? = some (bytes address) :=
    Text.mapM_written fun b hb => number?_byte b (bytes_lt address b hb)
  unfold ipv4?
  simp only [parts_ipv4Text, if_neg hlength, hnumbers, Option.bind_some]
  exact ofNumbers?_bytes h

/-- Bytes behind a number, as digits of it, give less than behind the next number. -/
lemma foldl_bytes_lt {list : List ℕ} (h : ∀ b ∈ list, b ≤ 255) (sum : ℕ) :
    list.foldl (fun sum n => sum * 256 + n) sum < (sum + 1) * 256 ^ list.length := by
  induction list generalizing sum with
  | nil => simp
  | cons b list ih =>
    obtain ⟨hb, hlist⟩ := List.forall_mem_cons.mp h
    calc (b :: list).foldl (fun sum n => sum * 256 + n) sum
        = list.foldl (fun sum n => sum * 256 + n) (sum * 256 + b) := rfl
      _ < (sum * 256 + b + 1) * 256 ^ list.length := ih hlist _
      _ ≤ (sum + 1) * 256 * 256 ^ list.length := Nat.mul_le_mul_right _ (by omega)
      _ = (sum + 1) * 256 ^ (b :: list).length := by
        rw [List.length_cons, pow_succ']
        ring

/-- An address of four bytes keeps below their bound. -/
lemma lt_of_ipv4? {address : ℕ} (h : ipv4? name = some address) : address < 2 ^ 32 := by
  unfold ipv4? at h
  dsimp only at h
  split at h
  · cases h
  · obtain ⟨numbers, -, h⟩ := Option.bind_eq_some_iff.mp h
    unfold ofNumbers? at h
    split at h
    · cases h
    · next last hlast =>
      dsimp only at h
      split at h
      · next hchecks =>
        obtain rfl := Option.some.inj h
        simp only [Bool.and_eq_true, decide_eq_true_eq, List.all_eq_true, Nat.shiftLeft_eq,
          Nat.one_mul] at hchecks
        obtain ⟨⟨hlength, hall⟩, hlt⟩ := hchecks
        have hsum := foldl_bytes_lt hall 0
        rw [Nat.shiftLeft_eq]
        generalize numbers.dropLast.foldl (fun sum n => sum * 256 + n) 0 = sum at hsum ⊢
        generalize numbers.dropLast.length = leading at hlength hlt hsum ⊢
        interval_cases leading <;> omega
      · cases h

/-! ### Addresses of eight pieces -/

/-- The pieces of an address. -/
structure ArePieces (pieces : List ℕ) : Prop where
  length_eq : pieces.length = 8
  lt : ∀ p ∈ pieces, p < 65536

/-- The characters of a number in hexadecimal are none of the signs between numbers. -/
lemma hexadecimal_plain {p : ℕ} (h : c ∈ Nat.toDigits 16 p) : c ≠ '.' ∧ c ≠ ':' := by
  obtain ⟨d, hd, rfl⟩ := mem_toDigits (by decide) (by decide) h
  have hplain := digit_plain d hd
  exact ⟨hplain.1, hplain.2.1⟩

/-- A piece in hexadecimal is read as the piece. -/
lemma piece?_toDigits {p : ℕ} (h : p < 65536) : piece? (Nat.toDigits 16 p) = some p := by
  have hlength : ¬ 4 < (Nat.toDigits 16 p).length := not_lt.mpr (length_toDigits_le h)
  have hne : (Nat.toDigits 16 p).isEmpty = false := by
    rw [List.isEmpty_eq_false_iff]
    exact Nat.toDigits_ne_nil
  unfold piece?
  rw [hne, Bool.false_or, if_neg (by simpa using hlength), value?_toDigits]

/-- The text of pieces is read as the pieces. -/
lemma pieces?_piecesText (embed : Bool) (hne : pieces ≠ []) (h : ∀ p ∈ pieces, p < 65536) :
    pieces? embed (piecesText pieces) = some pieces := by
  have hsplit : Text.splitOn ':' (piecesText pieces) = pieces.map (Nat.toDigits 16) := by
    apply Text.splitOn_joinWith
    · simpa using hne
    · intro part hpart hmem
      obtain ⟨p, -, rfl⟩ := List.mem_map.mp hpart
      exact (hexadecimal_plain hmem).2 rfl
  obtain ⟨init, last, rfl⟩ := (List.eq_nil_or_concat pieces).resolve_left hne
  have hlast : ((init.concat last).map (Nat.toDigits 16)).getLast? =
      some (Nat.toDigits 16 last) := by
    simp
  have hdot : (Nat.toDigits 16 last).contains '.' = false := by
    rw [List.contains_eq_mem, decide_eq_false_iff_not]
    exact fun hmem => (hexadecimal_plain hmem).1 rfl
  have hread : ((init.concat last).map (Nat.toDigits 16)).mapM piece? = some (init.concat last) :=
    Text.mapM_written fun p hp => piece?_toDigits (h p hp)
  unfold pieces?
  simp only [hsplit, hlast, hdot, Bool.and_false, Bool.false_eq_true, if_false, hread]

/-- The text of pieces is read as the pieces next to a run of zeros as well, even if there are none.
-/
lemma side?_piecesText (embed : Bool) (h : ∀ p ∈ pieces, p < 65536) :
    side? embed (piecesText pieces) = some pieces := by
  by_cases hnil : pieces = []
  · rw [hnil]
    rfl
  · have hpieces := pieces?_piecesText embed hnil h
    have hempty : (piecesText pieces).isEmpty = false := by
      rw [List.isEmpty_eq_false_iff]
      intro htext
      rw [htext] at hpieces
      cases embed <;> cases hpieces
    unfold side?
    rw [hempty]
    exact hpieces

/-! ### Colons next to each other -/

/-- Two characters that are not both colons. -/
def Apart (a b : Char) : Prop :=
  a ≠ ':' ∨ b ≠ ':'

/-- The text of pieces starts with the digits of the first one. -/
lemma exists_piecesText_cons (p : ℕ) (pieces : List ℕ) :
    ∃ rest, piecesText (p :: pieces) = Nat.toDigits 16 p ++ rest := by
  cases pieces with
  | nil => exact ⟨[], (List.append_nil _).symm⟩
  | cons q pieces => exact ⟨[':'] ++ piecesText (q :: pieces), List.append_assoc _ _ _⟩

/-- No two colons stand next to each other in the text of pieces, nor at its end. -/
lemma isChain_piecesText (hne : pieces ≠ []) : (piecesText pieces ++ [':']).IsChain Apart := by
  have hdigits : ∀ p, (Nat.toDigits 16 p).IsChain Apart := fun p =>
    List.isChain_iff_forall_rel_of_append_cons_cons.mpr fun a b l₁ l₂ heq =>
      .inl (hexadecimal_plain (by rw [heq]; simp)).2
  have hend : ∀ p, ∀ c ∈ (Nat.toDigits 16 p).getLast?, ∀ d, Apart c d := fun p c hc d =>
    .inl (hexadecimal_plain (List.mem_of_getLast? hc)).2
  induction pieces with
  | nil => exact absurd rfl hne
  | cons p pieces ih =>
    by_cases hnil : pieces = []
    · rw [hnil]
      exact (hdigits p).append (List.isChain_singleton _) fun c hc d _ => hend p c hc d
    · have htext : piecesText (p :: pieces) ++ [':'] =
          Nat.toDigits 16 p ++ ':' :: (piecesText pieces ++ [':']) := by
        unfold piecesText
        rw [List.map_cons, Text.joinWith_cons _ _ (by simpa using hnil)]
        simp
      rw [htext]
      refine (hdigits p).append (List.IsChain.cons (ih hnil) fun c hc => ?_)
        fun c hc d _ => hend p c hc d
      -- the pieces that follow start with a digit
      obtain ⟨q, others, rfl⟩ := List.exists_cons_of_ne_nil hnil
      obtain ⟨rest, hrest⟩ := exists_piecesText_cons q others
      obtain ⟨d, digits, hdigits⟩ := List.exists_cons_of_ne_nil (Nat.toDigits_ne_nil (n := q) (b := 16))
      rw [hrest, hdigits] at hc
      obtain rfl := Option.some.inj hc
      exact .inr (hexadecimal_plain (hdigits ▸ List.mem_cons_self)).2

/-- So the text of pieces with a colon behind it has no two colons in a row. -/
lemma not_infix_piecesText (pieces : List ℕ) : ¬ [':', ':'] <:+: piecesText pieces ++ [':'] := by
  intro hinside
  by_cases hnil : pieces = []
  · rw [hnil] at hinside
    exact absurd hinside.length_le (by decide)
  · have hchain := List.IsChain.infix (isChain_piecesText hnil) hinside
    rcases List.isChain_pair.mp hchain with h | h <;> exact h rfl

/-! ### The run of zeros -/

/-- The longest run of zeros is one. -/
lemma longestZeros_spec (pieces : List ℕ) :
    (longestZeros pieces).2 ≤ zeros (pieces.drop (longestZeros pieces).1) := by
  unfold longestZeros
  induction List.range pieces.length using List.reverseRecOn with
  | nil => exact Nat.zero_le _
  | append_singleton starts start ih =>
    rw [List.foldl_append]
    simp only [List.foldl_cons, List.foldl_nil]
    split
    · exact le_rfl
    · exact ih

/-- What is part of the run of zeros at the front is zeros. -/
lemma take_zeros {length : ℕ} (h : length ≤ zeros pieces) :
    length ≤ pieces.length ∧ pieces.take length = List.replicate length 0 := by
  obtain ⟨rest, hrest⟩ := List.takeWhile_prefix (fun p => decide (p = 0)) (l := pieces)
  have htake : pieces.take length = (pieces.takeWhile fun p => decide (p = 0)).take length := by
    conv_lhs => rw [← hrest]
    exact List.take_append_of_le_length h
  have hlength : length ≤ pieces.length := by
    rw [← hrest, List.length_append]
    exact Nat.le_add_right_of_le h
  refine ⟨hlength, ?_⟩
  rw [List.eq_replicate_iff, List.length_take_of_le hlength, htake]
  refine ⟨rfl, fun p hp => ?_⟩
  simpa using List.mem_takeWhile_imp (List.mem_of_mem_take hp)

/-- **Addresses of eight pieces read back.** -/
theorem ipv6?_ipv6Text (h : ArePieces pieces) : ipv6? (ipv6Text pieces) = some pieces := by
  have hlength := h.length_eq
  have hne : pieces ≠ [] := by
    rintro rfl
    cases hlength
  have hmark : [':', ':'] ≠ [] := List.cons_ne_nil _ _
  unfold ipv6Text
  have hspec := longestZeros_spec pieces
  generalize longestZeros pieces = run at hspec ⊢
  obtain ⟨start, length⟩ := run
  dsimp only at hspec ⊢
  split
  · have hnone : Text.splitFirst? [':', ':'] (piecesText pieces) = none := by
      rw [Option.eq_none_iff_forall_ne_some]
      rintro ⟨before, after⟩ hsplit
      apply not_infix_piecesText pieces
      rw [Text.eq_of_splitFirst?_eq_some hsplit]
      exact ⟨before, after ++ [':'], by simp⟩
    simp only [ipv6?, hnone, pieces?_piecesText true hne h.lt, Option.filter_some, hlength,
      decide_true, if_true]
  · next hlong =>
    obtain ⟨hle, hzeros⟩ := take_zeros hspec
    rw [List.length_drop] at hle
    have hbefore : ∀ p ∈ pieces.take start, p < 65536 := fun p hp => h.lt p (List.mem_of_mem_take hp)
    have hafter : ∀ p ∈ pieces.drop (start + length), p < 65536 := fun p hp =>
      h.lt p (List.mem_of_mem_drop hp)
    have hsplit := Text.splitFirst?_of_first hmark (not_infix_piecesText (pieces.take start))
      (piecesText (pieces.drop (start + length)))
    rw [← List.append_assoc] at hsplit
    have hmissing : 8 - (pieces.take start).length - (pieces.drop (start + length)).length =
        length := by
      rw [List.length_take, List.length_drop]
      omega
    have hfew : (pieces.take start).length + (pieces.drop (start + length)).length ≤ 7 := by
      rw [List.length_take, List.length_drop]
      omega
    have hpieces : pieces.take start ++ List.replicate length 0 ++ pieces.drop (start + length) =
        pieces := by
      rw [← hzeros, List.append_assoc, ← List.drop_drop, List.take_append_drop,
        List.take_append_drop]
    simp only [ipv6?, hsplit, side?_piecesText _ hbefore, side?_piecesText _ hafter, hmissing,
      hpieces, if_pos hfew]

/-! ### The bounds of pieces -/

/-- The value of a digit keeps below the base. -/
lemma digit?_lt {base d : ℕ} (h : digit? base c = some d) : d < base := by
  unfold digit? at h
  split at h
  · simpa using (Option.filter_eq_some_iff.mp h).2
  · cases h

/-- The value of digits keeps below the power of the base that their number says. -/
lemma value?_lt {base value : ℕ} (h : value? base text = some value) :
    value < base ^ text.length := by
  induction text using List.reverseRecOn generalizing value with
  | nil =>
    cases h
    simp
  | append_singleton text c ih =>
    rw [value?, List.foldl_append, List.foldl_cons, List.foldl_nil] at h
    split at h
    · next n d hn hd =>
      obtain rfl := Option.some.inj h
      have hlt := ih hn
      have hdigit := digit?_lt hd
      calc n * base + d < n * base + base := by omega
        _ = (n + 1) * base := by ring
        _ ≤ base ^ text.length * base := Nat.mul_le_mul_right _ hlt
        _ = base ^ (text ++ [c]).length := by
          rw [List.length_append, List.length_singleton, pow_succ]
    · cases h

/-- A piece that is read keeps below its bound. -/
lemma piece?_lt {p : ℕ} (h : piece? text = some p) : p < 65536 := by
  unfold piece? at h
  split at h
  · cases h
  · next hshort =>
    simp only [Bool.or_eq_true, decide_eq_true_eq, not_or, not_lt] at hshort
    exact (value?_lt h).trans_le (Nat.pow_le_pow_right (by decide) hshort.2)

/-- If all that is read of single parts keeps below a bound, so does what is read of several. -/
lemma lt_of_mem_mapM {parts : List (List Char)} {bound : ℕ} {read : List Char → Option ℕ}
    (hread : ∀ part p, read part = some p → p < bound) (h : parts.mapM read = some pieces) :
    ∀ p ∈ pieces, p < bound := by
  intro p hp
  obtain ⟨part, -, hpart⟩ := Text.exists_of_mem_mapM h hp
  exact hread part p hpart

/-- The two pieces of an address of four bytes keep below their bound. -/
lemma embedded?_lt (h : embedded? text = some pieces) : ∀ p ∈ pieces, p < 65536 := by
  have hbyte : ∀ part b, byte? part = some b → b < 256 := by
    intro part b hb
    unfold byte? at hb
    split at hb
    · cases hb
    · have := (Option.filter_eq_some_iff.mp hb).2
      simp only [decide_eq_true_eq] at this
      omega
  unfold embedded? at h
  split at h
  · next a b c d hbytes =>
    obtain rfl := Option.some.inj h
    have hlt := lt_of_mem_mapM hbyte hbytes
    simp only [List.mem_cons, List.not_mem_nil, or_false, forall_eq_or_imp, forall_eq] at hlt ⊢
    omega
  · cases h

/-- The pieces that are read keep below their bound. -/
lemma pieces?_lt {embed : Bool} (h : pieces? embed text = some pieces) : ∀ p ∈ pieces, p < 65536 := by
  have hpiece : ∀ part p, piece? part = some p → p < 65536 := fun _ _ => piece?_lt
  unfold pieces? at h
  dsimp only at h
  split at h
  · cases h
  · split at h
    · split at h
      · next leading two hleading htwo =>
        obtain rfl := Option.some.inj h
        intro p hp
        rcases List.mem_append.mp hp with hp | hp
        · exact lt_of_mem_mapM hpiece hleading p hp
        · exact embedded?_lt htwo p hp
      · cases h
    · exact lt_of_mem_mapM hpiece h

/-- Those next to a run of zeros do so as well. -/
lemma side?_lt {embed : Bool} (h : side? embed text = some pieces) : ∀ p ∈ pieces, p < 65536 := by
  unfold side? at h
  split at h
  · obtain rfl := Option.some.inj h
    simp
  · exact pieces?_lt h

/-- The pieces of an address are eight, and each keeps below its bound. -/
lemma arePieces_of_ipv6? (h : ipv6? text = some pieces) : ArePieces pieces := by
  unfold ipv6? at h
  split at h
  · obtain ⟨hpieces, hlength⟩ := Option.filter_eq_some_iff.mp h
    exact ⟨by simpa using hlength, pieces?_lt hpieces⟩
  · split at h
    · next before after hbefore hafter =>
      split at h
      · next hfew =>
        obtain rfl := Option.some.inj h
        constructor
        · simp only [List.length_append, List.length_replicate]
          omega
        · intro p hp
          rcases List.mem_append.mp hp with hp | hp
          · rcases List.mem_append.mp hp with hp | hp
            · exact side?_lt hbefore p hp
            · rw [List.eq_of_mem_replicate hp]
              decide
          · exact side?_lt hafter p hp
      · cases h
    · cases h

end Address

end Url

end Retrace
