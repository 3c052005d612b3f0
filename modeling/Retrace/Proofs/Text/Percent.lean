import Mathlib
import Retrace.Text.Percent

/-!
# Percent-encoding read back

A byte string has many forms with escapes, since the digits of an escape may be written in either
case. `Spells plain text data` says that `text` is such a form of `data`, with an escape for every
byte that is not `plain` and for no other byte. As long as the percent sign itself is not plain, a
form is read as what it is a form of (`Spells.decode_eq`).
-/

namespace Retrace

namespace Percent

/-- The forms of a byte string with an escape for each byte that is not `plain`. -/
inductive Spells (plain : UInt8 → Bool) : Bytes → Bytes → Prop
  | nil : Spells plain [] []
  | plain {b : UInt8} {text data : Bytes} (hb : plain b) (hrest : Spells plain text data) :
      Spells plain (b :: text) (b :: data)
  | escaped {high low b : UInt8} {text data : Bytes} (hb : plain b = false)
      (hbyte : byte? high low = some b) (hrest : Spells plain text data) :
      Spells plain (sign :: high :: low :: text) (b :: data)

/-- A byte other than the percent sign stands for itself. -/
lemma decode_cons_of_ne_sign {b : UInt8} (hb : b ≠ sign) (text : Bytes) :
    decode (b :: text) = b :: decode text := by
  rcases text with _ | ⟨high, _ | ⟨low, rest⟩⟩
  · rfl
  · rfl
  · rw [decode, if_neg hb]

/-- A percent sign and two digits stand for a byte. -/
lemma decode_escape {high low b : UInt8} (hbyte : byte? high low = some b) (text : Bytes) :
    decode (sign :: high :: low :: text) = b :: decode text := by
  rw [decode, if_pos rfl, hbyte]

/-- **Escapes read back.** Each form of a byte string is read as the byte string. -/
theorem Spells.decode_eq {plain : UInt8 → Bool} (hsign : plain sign = false) {text data : Bytes}
    (h : Spells plain text data) : decode text = data := by
  induction h with
  | nil => rfl
  | @plain b text data hb hrest ih =>
    have hne : b ≠ sign := by
      rintro rfl
      rw [hsign] at hb
      cases hb
    rw [decode_cons_of_ne_sign hne, ih]
  | escaped hb hbyte hrest ih => rw [decode_escape hbyte, ih]

/-- The digits of a byte, read back. -/
lemma byte?_hexSymbol (b : UInt8) :
    byte? (hexSymbol (b.toNat / 16)) (hexSymbol (b.toNat % 16)) = some b := by
  have hdigit : ∀ d < 16, hexValue? (hexSymbol d) = some d := by decide
  have hb : b.toNat < 256 := b.toNat_lt
  have hsum : b.toNat / 16 * 16 + b.toNat % 16 = b.toNat := by omega
  rw [byte?, hdigit _ (by omega), hdigit _ (by omega)]
  simp only
  rw [hsum, UInt8.ofNat_toNat]

/-- The form with digits in upper case. -/
theorem spells_encode (plain : UInt8 → Bool) (data : Bytes) :
    Spells plain (encode plain data) data := by
  induction data with
  | nil => exact .nil
  | cons b data ih =>
    have hencode : encode plain (b :: data) =
        (if plain b then [b] else escape b) ++ encode plain data := rfl
    rw [hencode]
    by_cases hb : plain b
    · rw [if_pos hb]
      exact .plain hb ih
    · rw [if_neg hb]
      exact .escaped (by simpa using hb) (byte?_hexSymbol b) ih

/-- What stands in a form: plain bytes, percent signs and hexadecimal digits. -/
lemma Spells.mem {plain : UInt8 → Bool} {text data : Bytes} (h : Spells plain text data)
    {b : UInt8} (hb : b ∈ text) : plain b ∨ b = sign ∨ (hexValue? b).isSome := by
  induction h with
  | nil => cases hb
  | plain hc hrest ih =>
    rcases List.mem_cons.mp hb with rfl | hmem
    · exact .inl hc
    · exact ih hmem
  | @escaped high low c text data hc hbyte hrest ih =>
    have hdigits : (hexValue? high).isSome ∧ (hexValue? low).isSome := by
      unfold byte? at hbyte
      split at hbyte
      · next h l hh hl => simp [hh, hl]
      · cases hbyte
    simp only [List.mem_cons] at hb
    rcases hb with rfl | rfl | rfl | hmem
    · exact .inr (.inl rfl)
    · exact .inr (.inr hdigits.1)
    · exact .inr (.inr hdigits.2)
    · exact ih hmem

/-! ### Texts with escapes -/

/-- The characters of escapes. -/
def escapeSigns : List Char :=
  "%0123456789ABCDEF".toList

lemma mem_escapeSigns {b e : UInt8} (he : e ∈ escape b) : Char.ofNat e.toNat ∈ escapeSigns := by
  have hdigit : ∀ d < 16, Char.ofNat (hexSymbol d).toNat ∈ escapeSigns := by decide
  have hb : b.toNat < 256 := b.toNat_lt
  simp only [escape, List.mem_cons, List.not_mem_nil, or_false] at he
  rcases he with rfl | rfl | rfl
  · decide
  · exact hdigit _ (by omega)
  · exact hdigit _ (by omega)

/-- The characters of a text with escapes. -/
lemma mem_encodeText {plain : Char → Bool} {text : List Char} {c : Char}
    (h : c ∈ encodeText plain text) :
    c ∈ text ∧ c.toNat < 0x80 ∧ plain c ∨ c ∈ escapeSigns := by
  obtain ⟨d, hd, hc⟩ := List.mem_flatMap.mp h
  split at hc
  · next hplain =>
    rw [List.mem_singleton.mp hc]
    simp only [Bool.and_eq_true, decide_eq_true_eq] at hplain
    exact .inl ⟨hd, hplain⟩
  · obtain ⟨e, he, rfl⟩ := List.mem_map.mp hc
    obtain ⟨b, -, he⟩ := List.mem_flatMap.mp he
    exact .inr (mem_escapeSigns he)

/-- A text of plain characters stays as it is. -/
lemma encodeText_eq_self {plain : Char → Bool} {text : List Char}
    (h : ∀ c ∈ text, c.toNat < 0x80 ∧ plain c) : encodeText plain text = text := by
  induction text with
  | nil => rfl
  | cons c text ih =>
    obtain ⟨hc, htext⟩ := List.forall_mem_cons.mp h
    have hcons : encodeText plain (c :: text) =
        (if c.toNat < 0x80 && plain c then [c]
          else (encode (fun _ => false) (String.utf8EncodeChar c)).map fun b => Char.ofNat b.toNat) ++
          encodeText plain text := rfl
    rw [hcons, if_pos (by simpa using hc), ih htext]
    rfl

end Percent

end Retrace
