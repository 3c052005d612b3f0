import Mathlib
import Retrace.Text.Base64

/-!
# Base64 read back

The digits of a byte string are whole groups of four and a last group of two, three or four digits
(`exists_unpack_eq`). Symbols for such digits are read as the digits, with as much padding as fits
into the last group (`decode?_symbols`), and the digits of a byte string pack to the byte string. So
the base64 form of a byte string is read as the byte string, padded (`decode?_encodePadded`) or not
(`decode?_encode`).
-/

namespace Retrace

namespace Base64

/-! ### Symbols -/

/-- The byte for padding is no symbol of a digit. -/
lemma symbol_ne_pad {d : ℕ} (hd : d < 64) : symbol d ≠ pad := by
  intro hpad
  have hdigit : digit? pad = some d := hpad ▸ digit?_symbol hd
  have hnone : digit? pad = none := by decide
  rw [hnone] at hdigit
  cases hdigit

/-- The symbols of digits are ASCII. -/
lemma symbol_lt {d : ℕ} (hd : d < 64) : symbol d < 0x80 := by
  revert d
  decide

/-- Symbols are read as their digits. -/
lemma digits_map_symbol (offset : ℕ) {ds : List ℕ} (hds : ∀ d ∈ ds, d < 64) :
    digits offset (ds.map symbol) = .ok ds := by
  induction ds generalizing offset with
  | nil => rfl
  | cons d ds ih =>
    have hd : digit? (symbol d) = some d := digit?_symbol (hds d List.mem_cons_self)
    have hrest := ih (offset + 1) fun e he => hds e (List.mem_cons_of_mem d he)
    rw [List.map_cons, digits, hd]
    simp only [hrest]
    rfl

/-- Padding after two digits has no digits. -/
lemma lastDigits_pads (start : ℕ) {index : ℕ} (hindex : 2 ≤ index) (padAt : Option ℕ) (count : ℕ) :
    lastDigits start index padAt (List.replicate count pad) = .ok [] := by
  induction count generalizing index padAt with
  | zero => rfl
  | succ count ih =>
    unfold lastDigits
    rw [List.replicate_succ]
    simp only
    rw [if_pos trivial, if_neg (by omega)]
    exact ih (by omega) _

/-- The symbols of a last group are read as their digits, with padding after them or without. -/
lemma lastDigits_symbols (start : ℕ) {index : ℕ} {ds : List ℕ} (hds : ∀ d ∈ ds, d < 64)
    (hindex : 2 ≤ index + ds.length) (count : ℕ) :
    lastDigits start index none (ds.map symbol ++ List.replicate count pad) = .ok ds := by
  induction ds generalizing index with
  | nil =>
    rw [List.map_nil, List.nil_append]
    exact lastDigits_pads start (by simpa using hindex) none count
  | cons d ds ih =>
    have hd : d < 64 := hds d List.mem_cons_self
    have hlength : (d :: ds).length = ds.length + 1 := rfl
    have hrest : lastDigits start (index + 1) none (ds.map symbol ++ List.replicate count pad) =
        .ok ds := ih (fun e he => hds e (List.mem_cons_of_mem d he)) (by omega)
    rw [List.map_cons, List.cons_append]
    simp only [lastDigits, symbol_ne_pad hd, if_false, digit?_symbol hd, hrest]
    rfl

/-- Symbols of whole groups, and of a last group with padding after it or without, are read as the
digits, if the last digit has no bits to spare. -/
theorem decode?_symbols {whole last : List ℕ} (count : ℕ) (hds : ∀ d ∈ whole ++ last, d < 64)
    (hwhole : whole.length % 4 = 0) (htwo : 2 ≤ last.length) (hfour : last.length + count ≤ 4)
    (hspare : spareBits last = 0) :
    decode? ((whole ++ last).map symbol ++ List.replicate count pad) =
      .ok (pack (whole ++ last)) := by
  have hwholeDigits : ∀ d ∈ whole, d < 64 := fun d hd => hds d (List.mem_append_left last hd)
  have hlastDigits : ∀ d ∈ last, d < 64 := fun d hd => hds d (List.mem_append_right whole hd)
  have hsplit : (whole ++ last).map symbol ++ List.replicate count pad =
      whole.map symbol ++ (last.map symbol ++ List.replicate count pad) := by
    rw [List.map_append, List.append_assoc]
  have hlength : (whole.map symbol ++ (last.map symbol ++ List.replicate count pad)).length =
      whole.length + (last.length + count) := by
    simp
  have hstart : leadingLength (whole.length + (last.length + count)) =
      (whole.map symbol).length := by
    rw [List.length_map, leadingLength]
    split <;> omega
  have hstray : strayLast? (whole.map symbol ++ (last.map symbol ++ List.replicate count pad)) =
      none := by
    have hmod : (whole.length + (last.length + count)) % 4 ≠ 1 := by omega
    unfold strayLast?
    rw [hlength]
    split
    · simp [hmod]
    · rfl
  have hgroup : lastGroup (whole.map symbol).length
      (last.map symbol ++ List.replicate count pad) = .ok last := by
    rw [lastGroup, lastDigits_symbols _ hlastDigits (by omega)]
    simp only
    rw [if_neg (by omega), if_pos hspare]
  rw [hsplit, decode?, hstray]
  simp only [hlength, hstart, List.take_left', List.drop_left', digits_map_symbol 0 hwholeDigits,
    hgroup]
  rfl

/-! ### The digits of a byte string -/

/-- Every digit of a byte string is below sixty-four. -/
lemma lt_of_mem_unpack {data : Bytes} {d : ℕ} (h : d ∈ unpack data) : d < 64 := by
  induction data using unpack.induct with
  | case1 a b c rest ih =>
    have ha := a.toNat_lt
    have hb := b.toNat_lt
    have hc := c.toNat_lt
    rw [unpack] at h
    simp only [List.mem_cons] at h
    rcases h with h | h | h | h | h
    · omega
    · omega
    · omega
    · omega
    · exact ih h
  | case2 a b =>
    have ha := a.toNat_lt
    have hb := b.toNat_lt
    simp only [unpack, List.mem_cons, List.not_mem_nil, or_false] at h
    omega
  | case3 a =>
    have ha := a.toNat_lt
    simp only [unpack, List.mem_cons, List.not_mem_nil, or_false] at h
    omega
  | case4 => cases h

/-- The digits of a byte string pack to the byte string. -/
lemma pack_unpack (data : Bytes) : pack (unpack data) = data := by
  induction data using unpack.induct with
  | case1 a b c rest ih =>
    have hb := b.toNat_lt
    have hc := c.toNat_lt
    have hfirst : a.toNat / 4 * 4 + (a.toNat % 4 * 16 + b.toNat / 16) / 16 = a.toNat := by omega
    have hsecond : (a.toNat % 4 * 16 + b.toNat / 16) % 16 * 16 +
        (b.toNat % 16 * 4 + c.toNat / 64) / 4 = b.toNat := by omega
    have hthird : (b.toNat % 16 * 4 + c.toNat / 64) % 4 * 64 + c.toNat % 64 = c.toNat := by omega
    rw [unpack, pack, ih, hfirst, hsecond, hthird]
    simp only [UInt8.ofNat_toNat]
  | case2 a b =>
    have hb := b.toNat_lt
    have hfirst : a.toNat / 4 * 4 + (a.toNat % 4 * 16 + b.toNat / 16) / 16 = a.toNat := by omega
    have hsecond : (a.toNat % 4 * 16 + b.toNat / 16) % 16 * 16 + b.toNat % 16 * 4 / 4 =
        b.toNat := by omega
    rw [unpack, pack, hfirst, hsecond]
    simp only [UInt8.ofNat_toNat]
  | case3 a =>
    have hfirst : a.toNat / 4 * 4 + a.toNat % 4 * 16 / 16 = a.toNat := by omega
    rw [unpack, pack, hfirst]
    simp only [UInt8.ofNat_toNat]
  | case4 => rfl

/-- The digits of a byte string are whole groups and a last one that padding makes whole, whose last
digit has no bits to spare. -/
lemma exists_unpack_eq {data : Bytes} (h : data ≠ []) :
    ∃ whole last, unpack data = whole ++ last ∧ whole.length % 4 = 0 ∧ 2 ≤ last.length ∧
      last.length + (3 - data.length % 3) % 3 = 4 ∧ spareBits last = 0 := by
  induction data using unpack.induct with
  | case1 a b c rest ih =>
    by_cases hrest : rest = []
    · subst hrest
      exact ⟨[], unpack [a, b, c], rfl, rfl, by simp [unpack], by simp [unpack],
        by simp [unpack, spareBits]⟩
    · obtain ⟨whole, last, hunpack, hwhole, htwo, hpadded, hspare⟩ := ih hrest
      have hlength : (a :: b :: c :: rest).length % 3 = rest.length % 3 := by
        simp only [List.length_cons]
        omega
      rw [unpack, hunpack, hlength]
      refine ⟨_ :: _ :: _ :: _ :: whole, last, rfl, ?_, htwo, hpadded, hspare⟩
      simp only [List.length_cons]
      omega
  | case2 a b =>
    refine ⟨[], unpack [a, b], rfl, rfl, by simp [unpack], by simp [unpack], ?_⟩
    simp [unpack, spareBits]
  | case3 a =>
    refine ⟨[], unpack [a], rfl, rfl, by simp [unpack], by simp [unpack], ?_⟩
    simp only [unpack, spareBits]
    omega
  | case4 => exact absurd rfl h

/-- **Base64 read back.** The base64 form of a byte string is read as the byte string. -/
theorem decode?_encode (data : Bytes) : decode? (encode data) = .ok data := by
  by_cases hdata : data = []
  · subst hdata
    rfl
  · obtain ⟨whole, last, hunpack, hwhole, htwo, hpadded, hspare⟩ := exists_unpack_eq hdata
    have hds : ∀ d ∈ whole ++ last, d < 64 := fun d hd => lt_of_mem_unpack (hunpack ▸ hd)
    have hread := decode?_symbols 0 hds hwhole htwo (by omega) hspare
    rw [List.replicate_zero, List.append_nil] at hread
    rw [encode, hunpack, hread, ← hunpack, pack_unpack]

/-- **Padded base64 read back.** The padded base64 form of a byte string is read as the byte string
too. -/
theorem decode?_encodePadded (data : Bytes) : decode? (encodePadded data) = .ok data := by
  by_cases hdata : data = []
  · subst hdata
    rfl
  · obtain ⟨whole, last, hunpack, hwhole, htwo, hpadded, hspare⟩ := exists_unpack_eq hdata
    have hds : ∀ d ∈ whole ++ last, d < 64 := fun d hd => lt_of_mem_unpack (hunpack ▸ hd)
    have hread := decode?_symbols _ hds hwhole htwo hpadded.le hspare
    rw [encodePadded, encode, hunpack, hread, ← hunpack, pack_unpack]

end Base64

end Retrace
