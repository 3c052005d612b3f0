import Mathlib
import Retrace.Json.Printer
import Retrace.Json.Scan
import Retrace.Proofs.Text.Utf8

/-!
# Strings and numbers read back

A string is read byte by byte, and what its bytes spell does not depend on how many rounds there
are, as long as there are enough (`Spells.stringBody_eq`). Each character is written so that it
spells its own bytes (`spells_escapedChar`), whether it stands for itself or needs an escape. So a
string is read as the text that it was written for (`string_stringText`).

A number is read as far as its digits go. So it is read back only where what follows cannot go on
with it (`Delimited`, `number_numeral`).
-/

namespace Retrace

namespace Json

/-! ### Strings -/

/-- A byte that stands for itself in a string. -/
structure IsPlain (b : UInt8) : Prop where
  not_control : ¬b < 0x20
  ne_quote : b ≠ quote
  ne_backslash : b ≠ backslash

/-- The bytes that stand between the quotes of a string, and the bytes that they spell. -/
inductive Spells : Bytes → Bytes → Prop
  | nil : Spells [] []
  | plain {b : UInt8} {text data : Bytes} (hb : IsPlain b) (hrest : Spells text data) :
      Spells (b :: text) (b :: data)
  | letter {b byte : UInt8} {text data : Bytes} (hb : letterEscape? b = some byte)
      (hrest : Spells text data) : Spells (backslash :: b :: text) (byte :: data)
  | unit {digits spelled text data : Bytes}
      (hdigits : ∀ rest, unitEscape (digits ++ rest) = .ok (spelled, rest))
      (hrest : Spells text data) :
      Spells (backslash :: 0x75 :: (digits ++ text)) (spelled ++ data)

/-- **Strings read back.** The bytes before a quote are read as what they spell. -/
theorem Spells.stringBody_eq {text data : Bytes} (h : Spells text data) {rounds : Bytes}
    (hrounds : text.length < rounds.length) (rest : Bytes) :
    stringBody rounds (text ++ quote :: rest) = .ok (data, rest) := by
  induction h generalizing rounds with
  | nil =>
    obtain ⟨round, rounds, rfl⟩ := List.exists_cons_of_length_pos (Nat.zero_lt_of_lt hrounds)
    rw [List.nil_append, stringBody, if_pos rfl]
  | plain hb hrest ih =>
    obtain ⟨round, rounds, rfl⟩ := List.exists_cons_of_length_pos (Nat.zero_lt_of_lt hrounds)
    simp only [List.length_cons] at hrounds
    rw [List.cons_append, stringBody, if_neg hb.ne_quote, if_neg hb.ne_backslash,
      if_neg hb.not_control, ih (by omega)]
    rfl
  | letter hb hrest ih =>
    obtain ⟨round, rounds, rfl⟩ := List.exists_cons_of_length_pos (Nat.zero_lt_of_lt hrounds)
    simp only [List.length_cons] at hrounds
    rw [List.cons_append, List.cons_append, stringBody, if_neg (by decide), if_pos rfl, escape, hb]
    simp only
    rw [ih (by omega)]
    rfl
  | @unit digits spelled text data hdigits hrest ih =>
    obtain ⟨round, rounds, rfl⟩ := List.exists_cons_of_length_pos (Nat.zero_lt_of_lt hrounds)
    simp only [List.length_cons, List.length_append] at hrounds
    have hletter : letterEscape? 0x75 = none := by decide
    rw [List.cons_append, List.cons_append, List.append_assoc, stringBody, if_neg (by decide),
      if_pos rfl, escape, hletter]
    simp only [if_true, hdigits]
    rw [ih (by omega)]
    rfl

/-- Plain bytes in front spell themselves. -/
lemma Spells.append_plain {text data : Bytes} (h : Spells text data) {bytes : Bytes}
    (hbytes : ∀ b ∈ bytes, IsPlain b) : Spells (bytes ++ text) (bytes ++ data) := by
  induction bytes with
  | nil => exact h
  | cons b bytes ih =>
    have hrest := ih fun c hc => hbytes c (List.mem_cons_of_mem b hc)
    exact .plain (hbytes b List.mem_cons_self) hrest

/-- The bytes of a character that needs no escape are plain. -/
lemma isPlain_of_mem_encodeChar {c : Char} (hcontrol : ¬c.toNat < 0x20) (hquote : c ≠ '\x22')
    (hbackslash : c ≠ '\\') {b : UInt8} (hb : b ∈ String.utf8EncodeChar c) : IsPlain b := by
  by_cases hc : c.toNat < 0x80
  · have hall : ∀ n < 0x80, ¬n < 0x20 ∧ n ≠ 0x22 ∧ n ≠ 0x5C →
        ¬UInt8.ofNat n < 0x20 ∧ UInt8.ofNat n ≠ quote ∧ UInt8.ofNat n ≠ backslash := by decide
    have hencode := Utf8.encodeChar_one hc
    rw [Char.ofNat_toNat] at hencode
    rw [hencode, List.mem_singleton] at hb
    subst hb
    have hquote' : c.toNat ≠ 0x22 := fun h => hquote (Char.toNat_inj.mp h)
    have hbackslash' : c.toNat ≠ 0x5C := fun h => hbackslash (Char.toNat_inj.mp h)
    obtain ⟨hone, htwo, hthree⟩ := hall c.toNat hc ⟨hcontrol, hquote', hbackslash'⟩
    exact ⟨hone, htwo, hthree⟩
  · have hle : 0x80 ≤ b.toNat :=
      UInt8.le_iff_toNat_le.mp (Utf8.le_of_mem_encodeChar (Nat.le_of_not_lt hc) hb)
    refine ⟨?_, ?_, ?_⟩
    · rw [UInt8.lt_iff_toNat_lt]
      exact fun h => absurd (Nat.lt_of_le_of_lt hle h) (by decide)
    · rintro rfl
      exact absurd hle (by decide)
    · rintro rfl
      exact absurd hle (by decide)

/-- The digit of a value below sixteen, in lower case. -/
def lowerHex (d : ℕ) : UInt8 :=
  if d < 10 then UInt8.ofNat (d + 48) else UInt8.ofNat (d + 87)

/-- The escape of a control character gives it by its code point. -/
lemma unitEscape_control {n : ℕ} (hn : n < 0x20) (rest : Bytes) :
    unitEscape ([0x30, 0x30, lowerHex (n / 16), lowerHex (n % 16)] ++ rest) =
      .ok (String.utf8EncodeChar (Char.ofNat n), rest) := by
  have hzero : Percent.hexValue? 0x30 = some 0 := by decide
  have hdigit : ∀ d < 16, Percent.hexValue? (lowerHex d) = some d := by decide
  have hsum : ((0 * 16 + 0) * 16 + n / 16) * 16 + n % 16 = n := by omega
  have hfour : hexFour ([0x30, 0x30, lowerHex (n / 16), lowerHex (n % 16)] ++ rest) =
      .ok (n, rest) := by
    simp only [List.cons_append, List.nil_append, hexFour, hzero,
      hdigit _ (show n / 16 < 16 by omega), hdigit _ (show n % 16 < 16 by omega), hsum]
  have hlow : ¬(0xDC00 ≤ n ∧ n ≤ 0xDFFF) := by omega
  have hhigh : ¬(0xD800 ≤ n ∧ n ≤ 0xDBFF) := by omega
  rw [unitEscape, hfour]
  simp only [Bool.and_eq_true, decide_eq_true_eq, hlow, hhigh, if_false]
  rfl

/-- How a control character is written that has no letter of its own. -/
lemma encode_control {n : ℕ} (hn : n < 0x20) :
    Utf8.encode (['\\', 'u', '0', '0'] ++ (if n < 0x10 then ['0'] else ['1']) ++
      Text.hexDigits (n % 16)) =
      backslash :: 0x75 :: [0x30, 0x30, lowerHex (n / 16), lowerHex (n % 16)] := by
  revert n
  decide

/-- A control character without a letter of its own spells its bytes. -/
lemma spells_control {c : Char} (hcontrol : c.toNat < 0x20) {text data : Bytes}
    (h : Spells text data) :
    Spells (Utf8.encode (['\\', 'u', '0', '0'] ++ (if c.toNat < 0x10 then ['0'] else ['1']) ++
      Text.hexDigits (c.toNat % 16)) ++ text) (String.utf8EncodeChar c ++ data) := by
  have hspelled := unitEscape_control hcontrol
  rw [Char.ofNat_toNat] at hspelled
  rw [encode_control hcontrol]
  exact .unit hspelled h

/-- **Characters in strings.** A character is written so that it spells its bytes. -/
theorem spells_escapedChar (c : Char) {text data : Bytes} (h : Spells text data) :
    Spells (Utf8.encode (escapedChar c) ++ text) (String.utf8EncodeChar c ++ data) := by
  unfold escapedChar
  split_ifs with hquote hbackslash hbackspace hfeed hline hreturn htab hcontrol hshort
  · subst hquote
    exact .letter (by decide) h
  · subst hbackslash
    exact .letter (by decide) h
  · subst hbackspace
    exact .letter (by decide) h
  · subst hfeed
    exact .letter (by decide) h
  · subst hline
    exact .letter (by decide) h
  · subst hreturn
    exact .letter (by decide) h
  · subst htab
    exact .letter (by decide) h
  · have hspells := spells_control hcontrol h
    rw [if_pos hshort] at hspells
    exact hspells
  · have hspells := spells_control hcontrol h
    rw [if_neg hshort] at hspells
    exact hspells
  · have hencode : Utf8.encode [c] = String.utf8EncodeChar c := List.append_nil _
    rw [hencode]
    exact h.append_plain fun b hb => isPlain_of_mem_encodeChar hcontrol hquote hbackslash hb

/-- A text is written so that it spells its bytes. -/
lemma spells_flatMap_escapedChar (text : List Char) :
    Spells (Utf8.encode (text.flatMap escapedChar)) (Utf8.encode text) := by
  induction text with
  | nil => exact .nil
  | cons c text ih =>
    have hencode : Utf8.encode (c :: text) = String.utf8EncodeChar c ++ Utf8.encode text := rfl
    rw [List.flatMap_cons, Utf8.encode_append, hencode]
    exact spells_escapedChar c ih

/-- The bytes of a string with its quotes. -/
lemma encode_stringText (s : String) :
    Utf8.encode (stringText s) =
      quote :: (Utf8.encode (s.toList.flatMap escapedChar) ++ [quote]) := by
  have hcons : stringText s = ['\x22'] ++ s.toList.flatMap escapedChar ++ ['\x22'] := rfl
  rw [hcons, Utf8.encode_append, Utf8.encode_append]
  rfl

/-- **Strings read back.** A string is read after its first quote as the text that it was written
for. -/
theorem string_stringText (s : String) (rest : Bytes) :
    string (Utf8.encode (s.toList.flatMap escapedChar) ++ quote :: rest) =
      .ok (s.toList, rest) := by
  have hlength : (Utf8.encode (s.toList.flatMap escapedChar)).length <
      (Utf8.encode (s.toList.flatMap escapedChar) ++ quote :: rest).length := by
    simp only [List.length_append, List.length_cons]
    omega
  have hbody := (spells_flatMap_escapedChar s.toList).stringBody_eq hlength rest
  rw [string, hbody]
  simp only [Utf8.decode?_encode]

/-! ### Numbers -/

/-- What follows a number and does not go on with it. -/
def Delimited (rest : Bytes) : Prop :=
  ∀ b ∈ rest.head?, isDigit b = false ∧ b ≠ point ∧ isExponentMark b = false

/-- Digits that fit are all taken in. -/
lemma absorb_eq (limit : ℕ) {value : ℕ} (ds : List ℕ)
    (h : ds.foldl (fun value d => 10 * value + d) value ≤ limit) :
    absorb limit value ds = (ds.foldl (fun value d => 10 * value + d) value, []) := by
  induction ds generalizing value with
  | nil => rfl
  | cons d ds ih =>
    rw [List.foldl_cons] at h ⊢
    -- the value only grows
    have hgrows : ∀ (ds : List ℕ) (start : ℕ),
        start ≤ ds.foldl (fun value d => 10 * value + d) start := by
      intro ds
      induction ds with
      | nil => exact fun start => le_rfl
      | cons e ds ih' =>
        intro start
        rw [List.foldl_cons]
        have hnext := ih' (10 * start + e)
        omega
    have hstart := hgrows ds (10 * value + d)
    have hfits : value * 10 + d ≤ limit := by omega
    have hcomm : value * 10 + d = 10 * value + d := by omega
    rw [absorb, if_pos hfits, hcomm, ih h]

/-- The bytes of the digits of a number. -/
def numeral (n : ℕ) : Bytes :=
  (Nat.toDigits 10 n).map fun c => UInt8.ofNat c.toNat

/-- The digits of a number are ASCII digits. -/
lemma isDigit_of_mem_toDigits {n : ℕ} {c : Char} (hc : c ∈ Nat.toDigits 10 n) :
    48 ≤ c.toNat ∧ c.toNat ≤ 57 := by
  have hdigit : c.isDigit = true := Nat.isDigit_of_mem_toDigits (by decide) (by decide) hc
  simp only [Char.isDigit, Bool.and_eq_true, decide_eq_true_eq] at hdigit
  exact ⟨UInt32.le_iff_toNat_le.mp hdigit.1, UInt32.le_iff_toNat_le.mp hdigit.2⟩

/-- The bytes of a number. -/
lemma encode_repr (n : ℕ) : Utf8.encode n.repr.toList = numeral n := by
  rw [Nat.toList_repr]
  refine Utf8.encode_of_ascii fun c hc => ?_
  have hdigit := isDigit_of_mem_toDigits hc
  omega

/-- The value of an ASCII digit. -/
lemma toNat_sub_of_digit {c : Char} (hc : 48 ≤ c.toNat ∧ c.toNat ≤ 57) :
    (UInt8.ofNat c.toNat).toNat - 0x30 = c.toNat - '0'.toNat ∧
      isDigit (UInt8.ofNat c.toNat) = true := by
  have hall : ∀ n < 58, 48 ≤ n → (UInt8.ofNat n).toNat - 0x30 = n - '0'.toNat ∧
      isDigit (UInt8.ofNat n) = true := by decide
  exact hall c.toNat (by omega) hc.1

/-- The digits at the front are those of the number. -/
lemma spanDigits_numeral (n : ℕ) {rest : Bytes} (hrest : Delimited rest) :
    spanDigits (numeral n ++ rest) =
      ((Nat.toDigits 10 n).map fun c => c.toNat - '0'.toNat, rest) := by
  have hdigits : ∀ b ∈ numeral n, isDigit b = true := by
    intro b hb
    obtain ⟨c, hc, rfl⟩ := List.mem_map.mp hb
    exact (toNat_sub_of_digit (isDigit_of_mem_toDigits hc)).2
  have hstop : rest.takeWhile isDigit = [] ∧ rest.dropWhile isDigit = rest := by
    cases rest with
    | nil => exact ⟨rfl, rfl⟩
    | cons b rest =>
      have hb : isDigit b = false := (hrest b rfl).1
      rw [List.takeWhile_cons, List.dropWhile_cons, hb]
      exact ⟨rfl, rfl⟩
  rw [spanDigits, List.takeWhile_append_of_pos hdigits, List.dropWhile_append_of_pos hdigits,
    hstop.1, hstop.2, List.append_nil, numeral, List.map_map]
  refine Prod.ext (List.map_congr_left fun c hc => ?_) rfl
  exact (toNat_sub_of_digit (isDigit_of_mem_toDigits hc)).1

/-- The value of the digits of a number. -/
lemma foldl_toDigits (n : ℕ) :
    ((Nat.toDigits 10 n).map fun c => c.toNat - '0'.toNat).foldl
      (fun value d => 10 * value + d) 0 = n := by
  rw [List.foldl_map]
  exact Nat.ofDigitChars_toDigits (by decide) (by decide)

/-- Only zero is written with a zero in front. -/
lemma eq_zero_of_head?_toDigits {n : ℕ} (h : (Nat.toDigits 10 n).head? = some '0') : n = 0 := by
  induction n using Nat.strong_induction_on with
  | _ n ih =>
    by_cases hn : n < 10
    · rw [Nat.toDigits_of_lt_base hn, List.head?_cons, Option.some.injEq] at h
      exact Nat.digitChar_eq_zero.mp h
    · rw [Nat.toDigits_of_base_le (by decide) (by omega), List.head?_append] at h
      obtain ⟨c, others, hdigits⟩ :=
        List.exists_cons_of_ne_nil (Nat.toDigits_ne_nil (n := n / 10) (b := 10))
      rw [hdigits, List.head?_cons, Option.some_or] at h
      have hzero := ih (n / 10) (by omega) (by rw [hdigits, List.head?_cons, h])
      omega

/-- **Numbers read back.** The digits of a number are read as the number, where no more of it
follows. -/
theorem number_numeral {n : ℕ} (hn : n ≤ maxSignificand) {rest : Bytes} (hrest : Delimited rest) :
    number true (numeral n ++ rest) = .ok (.natural n, rest) := by
  have hwhole : afterWhole true n 0 rest = .ok (.natural n, rest) := by
    cases rest with
    | nil => rfl
    | cons b rest =>
      obtain ⟨-, hpoint, hmark⟩ := hrest b rfl
      rw [afterWhole, if_neg hpoint, hmark]
      rfl
  obtain ⟨c, others, hdigits⟩ :=
    List.exists_cons_of_ne_nil (Nat.toDigits_ne_nil (n := n) (b := 10))
  have hc : 48 ≤ c.toNat ∧ c.toNat ≤ 57 := isDigit_of_mem_toDigits (hdigits ▸ List.mem_cons_self)
  by_cases hzero : n = 0
  · subst hzero
    have hnumeral : numeral 0 = [0x30] := by decide
    rw [hnumeral, List.singleton_append]
    cases rest with
    | nil => rfl
    | cons b rest =>
      simp only [number, if_true, (hrest b rfl).1, Bool.false_eq_true, if_false]
      exact hwhole
  · have hnumeral : numeral n = UInt8.ofNat c.toNat :: others.map fun c => UInt8.ofNat c.toNat := by
      rw [numeral, hdigits, List.map_cons]
    have hfirst : UInt8.ofNat c.toNat ≠ 0x30 := by
      intro h
      have hne : ∀ n < 58, 48 ≤ n → UInt8.ofNat n = 0x30 → n = 48 := by decide
      have hcode : c = '0' := Char.toNat_inj.mp (hne c.toNat (by omega) hc.1 h)
      exact hzero (eq_zero_of_head?_toDigits (by rw [hdigits, List.head?_cons, hcode]))
    have hspan := spanDigits_numeral n hrest
    have hfits : ((Nat.toDigits 10 n).map fun c => c.toNat - '0'.toNat).foldl
        (fun value d => 10 * value + d) 0 ≤ maxSignificand := by rwa [foldl_toDigits]
    have habsorb := absorb_eq maxSignificand _ hfits
    rw [foldl_toDigits] at habsorb
    rw [hnumeral, List.cons_append] at hspan ⊢
    rw [number.eq_def]
    simp only [hfirst, if_false, (toNat_sub_of_digit hc).2, if_true, hspan, habsorb,
      List.length_nil]
    exact hwhole

end Json

end Retrace
