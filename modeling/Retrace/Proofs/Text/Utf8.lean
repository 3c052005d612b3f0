import Mathlib
import Retrace.Text.Utf8

/-!
# Text read back from its bytes

The bytes of a character are read as that character and nothing else (`piecesFrom_encodeChar`), so
the bytes of a text are read as the text. And no other bytes are: whatever a character is read from
are the bytes of the character (`Pending.Spells`), so that bytes are read as a text exactly when
they are the bytes of the text (`decode?_eq_ok_iff`).

The lossy reading never looks beyond a line feed, as no other character has that byte. So what
follows a line feed is read in the same way whatever stands before it
(`exists_lossy_append_newline`).

A reader that stops at the first byte of some kind, behind bytes of ASCII alone, stops where a
character starts (`exists_of_encode_eq`).
-/

namespace Retrace

namespace Utf8

/-! ### The bytes of a character -/

/-- A character that has one byte. -/
lemma encodeChar_one {x : ℕ} (hx : x < 0x80) :
    String.utf8EncodeChar (Char.ofNat x) = [UInt8.ofNat x] := by
  have hvalid : x.isValidChar := .inl (by omega)
  have hcode : (Char.ofNat x).val.toNat = x := by
    rw [← Char.toNat, Char.toNat_ofNat, if_pos hvalid]
  unfold String.utf8EncodeChar
  simp only [hcode]
  rw [if_pos (by omega)]

/-- A character that has two bytes, by its bits. -/
lemma encodeChar_two {x y : ℕ} (hx : 2 ≤ x) (hx' : x < 32) (hy : y < 64) :
    String.utf8EncodeChar (Char.ofNat (x * 64 + y)) =
      [UInt8.ofNat (0xC0 + x), UInt8.ofNat (0x80 + y)] := by
  have hvalid : (x * 64 + y).isValidChar := .inl (by omega)
  have hcode : (Char.ofNat (x * 64 + y)).val.toNat = x * 64 + y := by
    rw [← Char.toNat, Char.toNat_ofNat, if_pos hvalid]
  have hfirst : (x * 64 + y) / 64 % 32 + 192 = 0xC0 + x := by omega
  have hsecond : (x * 64 + y) % 64 + 128 = 0x80 + y := by omega
  unfold String.utf8EncodeChar
  simp only [hcode]
  rw [if_neg (by omega), if_pos (by omega), hfirst, hsecond]

/-- A character that has three bytes, by its bits. -/
lemma encodeChar_three {x y z : ℕ} (hx : x < 16) (hy : y < 64) (hz : z < 64)
    (hlow : x = 0 → 32 ≤ y) (hhigh : x = 13 → y < 32) :
    String.utf8EncodeChar (Char.ofNat ((x * 64 + y) * 64 + z)) =
      [UInt8.ofNat (0xE0 + x), UInt8.ofNat (0x80 + y), UInt8.ofNat (0x80 + z)] := by
  have hvalid : ((x * 64 + y) * 64 + z).isValidChar := by
    unfold Nat.isValidChar
    omega
  have hcode : (Char.ofNat ((x * 64 + y) * 64 + z)).val.toNat = (x * 64 + y) * 64 + z := by
    rw [← Char.toNat, Char.toNat_ofNat, if_pos hvalid]
  have hfirst : ((x * 64 + y) * 64 + z) / 4096 % 16 + 224 = 0xE0 + x := by omega
  have hsecond : ((x * 64 + y) * 64 + z) / 64 % 64 + 128 = 0x80 + y := by omega
  have hthird : ((x * 64 + y) * 64 + z) % 64 + 128 = 0x80 + z := by omega
  unfold String.utf8EncodeChar
  simp only [hcode]
  rw [if_neg (by omega), if_neg (by omega), if_pos (by omega), hfirst, hsecond, hthird]

/-- A character that has four bytes, by its bits. -/
lemma encodeChar_four {x y z u : ℕ} (hx : x < 5) (hy : y < 64) (hz : z < 64) (hu : u < 64)
    (hlow : x = 0 → 16 ≤ y) (hhigh : x = 4 → y < 16) :
    String.utf8EncodeChar (Char.ofNat (((x * 64 + y) * 64 + z) * 64 + u)) =
      [UInt8.ofNat (0xF0 + x), UInt8.ofNat (0x80 + y), UInt8.ofNat (0x80 + z),
        UInt8.ofNat (0x80 + u)] := by
  have hvalid : (((x * 64 + y) * 64 + z) * 64 + u).isValidChar := by
    unfold Nat.isValidChar
    omega
  have hcode : (Char.ofNat (((x * 64 + y) * 64 + z) * 64 + u)).val.toNat =
      ((x * 64 + y) * 64 + z) * 64 + u := by
    rw [← Char.toNat, Char.toNat_ofNat, if_pos hvalid]
  have hfirst : (((x * 64 + y) * 64 + z) * 64 + u) / 262144 % 8 + 240 = 0xF0 + x := by omega
  have hsecond : (((x * 64 + y) * 64 + z) * 64 + u) / 4096 % 64 + 128 = 0x80 + y := by omega
  have hthird : (((x * 64 + y) * 64 + z) * 64 + u) / 64 % 64 + 128 = 0x80 + z := by omega
  have hfourth : (((x * 64 + y) * 64 + z) * 64 + u) % 64 + 128 = 0x80 + u := by omega
  unfold String.utf8EncodeChar
  simp only [hcode]
  rw [if_neg (by omega), if_neg (by omega), if_neg (by omega), hfirst, hsecond, hthird, hfourth]

/-- The bits of a character, with its bytes: seven bits, or some in the first byte and six in each
of the others. -/
inductive Bits : Char → Prop
  | one {x : ℕ} (hx : x < 0x80) : Bits (Char.ofNat x)
  | two {x y : ℕ} (hx : 2 ≤ x) (hx' : x < 32) (hy : y < 64) : Bits (Char.ofNat (x * 64 + y))
  | three {x y z : ℕ} (hx : x < 16) (hy : y < 64) (hz : z < 64) (hlow : x = 0 → 32 ≤ y)
      (hhigh : x = 13 → y < 32) : Bits (Char.ofNat ((x * 64 + y) * 64 + z))
  | four {x y z u : ℕ} (hx : x < 5) (hy : y < 64) (hz : z < 64) (hu : u < 64)
      (hlow : x = 0 → 16 ≤ y) (hhigh : x = 4 → y < 16) :
      Bits (Char.ofNat (((x * 64 + y) * 64 + z) * 64 + u))

/-- Every character has bits of one of these forms. -/
lemma bits (c : Char) : Bits c := by
  have hvalid : c.toNat.isValidChar := c.valid
  unfold Nat.isValidChar at hvalid
  rw [← Char.ofNat_toNat c]
  generalize c.toNat = n at hvalid
  by_cases hone : n < 0x80
  · exact .one hone
  by_cases htwo : n < 0x800
  · have hn : n = n / 64 * 64 + n % 64 := by omega
    rw [hn]
    exact .two (by omega) (by omega) (by omega)
  by_cases hthree : n < 0x10000
  · have hn : n = (n / 4096 * 64 + n / 64 % 64) * 64 + n % 64 := by omega
    rw [hn]
    exact .three (by omega) (by omega) (by omega) (by omega) (by omega)
  · have hn : n = ((n / 262144 * 64 + n / 4096 % 64) * 64 + n / 64 % 64) * 64 + n % 64 := by omega
    rw [hn]
    exact .four (by omega) (by omega) (by omega) (by omega) (by omega) (by omega)

/-! ### First bytes -/

/-- The first byte of one. -/
lemma lead_one {x : ℕ} (hx : x < 0x80) : lead (UInt8.ofNat x) = .single (Char.ofNat x) := by
  revert x
  decide

/-- The first byte of two. -/
lemma lead_two {x : ℕ} (hx : 2 ≤ x) (hx' : x < 32) :
    lead (UInt8.ofNat (0xC0 + x)) = .multi ⟨1, 0x80, 0xBF, x, 1⟩ := by
  revert x
  decide

/-- The first byte of three. -/
lemma lead_three {x : ℕ} (hx : x < 16) :
    lead (UInt8.ofNat (0xE0 + x)) =
      .multi ⟨2, if x = 0 then 0xA0 else 0x80, if x = 13 then 0x9F else 0xBF, x, 1⟩ := by
  revert x
  decide

/-- The first byte of four. -/
lemma lead_four {x : ℕ} (hx : x < 5) :
    lead (UInt8.ofNat (0xF0 + x)) =
      .multi ⟨3, if x = 0 then 0x90 else 0x80, if x = 4 then 0x8F else 0xBF, x, 1⟩ := by
  revert x
  decide

/-- Every byte is a first byte or no character starts with it. -/
lemma lead_cases (b : UInt8) :
    (∃ x < 0x80, b = UInt8.ofNat x) ∨ (∃ x, 2 ≤ x ∧ x < 32 ∧ b = UInt8.ofNat (0xC0 + x)) ∨
      (∃ x < 16, b = UInt8.ofNat (0xE0 + x)) ∨ (∃ x < 5, b = UInt8.ofNat (0xF0 + x)) ∨
        lead b = .invalid := by
  have hinvalid : ∀ n < 256, 0x80 ≤ n ∧ n < 0xC2 ∨ 0xF5 ≤ n → lead (UInt8.ofNat n) = .invalid := by
    decide +kernel
  have hb : b = UInt8.ofNat b.toNat := UInt8.ofNat_toNat.symm
  have hlt : b.toNat < 256 := b.toNat_lt
  generalize b.toNat = n at hb hlt
  subst hb
  by_cases hone : n < 0x80
  · exact .inl ⟨n, hone, rfl⟩
  by_cases hnone : n < 0xC2 ∨ 0xF5 ≤ n
  · exact .inr (.inr (.inr (.inr (hinvalid n hlt (by omega)))))
  by_cases htwo : n < 0xE0
  · obtain ⟨x, rfl⟩ := Nat.exists_eq_add_of_le (show 0xC0 ≤ n by omega)
    exact .inr (.inl ⟨x, by omega, by omega, rfl⟩)
  by_cases hthree : n < 0xF0
  · obtain ⟨x, rfl⟩ := Nat.exists_eq_add_of_le (show 0xE0 ≤ n by omega)
    exact .inr (.inr (.inl ⟨x, by omega, rfl⟩))
  · obtain ⟨x, rfl⟩ := Nat.exists_eq_add_of_le (show 0xF0 ≤ n by omega)
    exact .inr (.inr (.inr (.inl ⟨x, by omega, rfl⟩)))

/-! ### Reading characters -/

/-- The byte that carries six bits and is no first byte. -/
def tailByte (y : ℕ) : UInt8 :=
  UInt8.ofNat (0x80 + y)

section Steps

variable {p : Pending} {y : ℕ} {rest : Bytes}

/-- Six more bits of a pending character. -/
lemma extend_tailByte (hy : y < 64) (p : Pending) : p.extend (tailByte y) = p.code * 64 + y := by
  have hlt : 0x80 + y < UInt8.size := by
    unfold UInt8.size
    omega
  have hbyte : (tailByte y).toNat = 0x80 + y := UInt8.toNat_ofNat_of_lt' hlt
  unfold Pending.extend
  rw [hbyte]
  omega

/-- The last byte of a character. -/
lemma piecesFrom_last (hy : y < 64) (hneed : p.need = 1) (haccepts : p.accepts (tailByte y)) :
    piecesFrom (tailByte y :: rest) (some p) =
      .char (Char.ofNat (p.code * 64 + y)) :: piecesFrom rest none := by
  rw [piecesFrom, if_pos haccepts, if_pos hneed.le, extend_tailByte hy]

/-- A byte of a character that has more. -/
lemma piecesFrom_more (hy : y < 64) (hneed : 1 < p.need) (haccepts : p.accepts (tailByte y)) :
    piecesFrom (tailByte y :: rest) (some p) =
      piecesFrom rest (some ⟨p.need - 1, 0x80, 0xBF, p.code * 64 + y, p.taken + 1⟩) := by
  rw [piecesFrom, if_pos haccepts, if_neg (by omega), extend_tailByte hy]

end Steps

/-- A byte that carries six bits goes on with a character, unless that bounds it. -/
lemma accepts_tailByte {y : ℕ} (hy : y < 64) (need code taken : ℕ) :
    Pending.accepts ⟨need, 0x80, 0xBF, code, taken⟩ (tailByte y) = true := by
  have hall : ∀ y < 64, (0x80 ≤ tailByte y && tailByte y ≤ 0xBF) = true := by decide
  exact hall y hy

/-- The second of three bytes. -/
lemma accepts_three {x y : ℕ} (hx : x < 16) (hy : y < 64) (taken : ℕ) :
    Pending.accepts ⟨2, if x = 0 then 0xA0 else 0x80, if x = 13 then 0x9F else 0xBF, x, taken⟩
      (tailByte y) = true ↔ (x = 0 → 32 ≤ y) ∧ (x = 13 → y < 32) := by
  have hall : ∀ x < 16, ∀ y < 64, ((if x = 0 then 0xA0 else 0x80) ≤ tailByte y &&
      tailByte y ≤ (if x = 13 then 0x9F else 0xBF)) = true ↔
        (x = 0 → 32 ≤ y) ∧ (x = 13 → y < 32) := by decide +kernel
  exact hall x hx y hy

/-- The second of four bytes. -/
lemma accepts_four {x y : ℕ} (hx : x < 5) (hy : y < 64) (taken : ℕ) :
    Pending.accepts ⟨3, if x = 0 then 0x90 else 0x80, if x = 4 then 0x8F else 0xBF, x, taken⟩
      (tailByte y) = true ↔ (x = 0 → 16 ≤ y) ∧ (x = 4 → y < 16) := by
  have hall : ∀ x < 5, ∀ y < 64, ((if x = 0 then 0x90 else 0x80) ≤ tailByte y &&
      tailByte y ≤ (if x = 4 then 0x8F else 0xBF)) = true ↔
        (x = 0 → 16 ≤ y) ∧ (x = 4 → y < 16) := by decide +kernel
  exact hall x hx y hy

/-- **Characters read back.** The bytes of a character are read as the character. -/
theorem piecesFrom_encodeChar (c : Char) (rest : Bytes) :
    piecesFrom (String.utf8EncodeChar c ++ rest) none = .char c :: piecesFrom rest none := by
  cases bits c with
  | one hx =>
    rw [encodeChar_one hx, List.cons_append, piecesFrom, enter, lead_one hx]
    rfl
  | two hx hx' hy =>
    rw [encodeChar_two hx hx' hy, List.cons_append, piecesFrom, enter, lead_two hx hx']
    exact piecesFrom_last hy rfl (accepts_tailByte hy _ _ _)
  | three hx hy hz hlow hhigh =>
    rw [encodeChar_three hx hy hz hlow hhigh, List.cons_append, piecesFrom, enter, lead_three hx]
    exact (piecesFrom_more hy Nat.one_lt_two ((accepts_three hx hy 1).mpr ⟨hlow, hhigh⟩)).trans
      (piecesFrom_last hz rfl (accepts_tailByte hz _ _ _))
  | four hx hy hz hu hlow hhigh =>
    rw [encodeChar_four hx hy hz hu hlow hhigh, List.cons_append, piecesFrom, enter, lead_four hx]
    have hsecond := (accepts_four hx hy 1).mpr ⟨hlow, hhigh⟩
    exact ((piecesFrom_more hy (Nat.lt_add_left 1 Nat.one_lt_two) hsecond).trans
      (piecesFrom_more hz Nat.one_lt_two (accepts_tailByte hz _ _ _))).trans
        (piecesFrom_last hu rfl (accepts_tailByte hu _ _ _))

/-- The bytes of a text are read as its characters. -/
lemma piecesFrom_encode (text : List Char) (rest : Bytes) :
    piecesFrom (encode text ++ rest) none = text.map .char ++ piecesFrom rest none := by
  induction text with
  | nil => rfl
  | cons c text ih =>
    have hencode : encode (c :: text) = String.utf8EncodeChar c ++ encode text := rfl
    rw [hencode, List.append_assoc, piecesFrom_encodeChar, ih]
    rfl

/-- The text of characters. -/
lemma textOf_map_char (index : ℕ) (text : List Char) :
    textOf index (text.map .char) = .ok text := by
  induction text generalizing index with
  | nil => rfl
  | cons c text ih => rw [List.map_cons, textOf, ih]

/-- The bytes of a text are read as the text. -/
lemma decode?_encode (text : List Char) : decode? (encode text) = .ok text := by
  have hpieces := piecesFrom_encode text []
  rw [List.append_nil, piecesFrom, List.append_nil] at hpieces
  rw [decode?, pieces, hpieces, textOf_map_char]

/-! ### Nothing else is read -/

/-- The bytes of a pending character that were read: with any bytes that complete the character they
are the bytes of the character. -/
structure Pending.Spells (p : Pending) (read : Bytes) : Prop where
  need_pos : 0 < p.need
  tail {b : UInt8} (haccepts : p.accepts b) : ∃ y < 64, b = tailByte y
  completes {ys : List ℕ} (hlength : ys.length = p.need) (hbits : ∀ y ∈ ys, y < 64)
    (hfirst : ∀ y ∈ ys.head?, p.accepts (tailByte y)) :
    String.utf8EncodeChar (Char.ofNat (ys.foldl (fun code y => code * 64 + y) p.code)) =
      read ++ ys.map tailByte

/-- A byte between the bounds of all bytes that are no first bytes carries six bits. -/
lemma exists_eq_tailByte {b : UInt8} (hlow : 0x80 ≤ b) (hhigh : b ≤ 0xBF) :
    ∃ y < 64, b = tailByte y := by
  rw [UInt8.le_iff_toNat_le] at hlow hhigh
  have hlow : 0x80 ≤ b.toNat := hlow
  have hhigh : b.toNat ≤ 0xBF := hhigh
  refine ⟨b.toNat - 0x80, by omega, ?_⟩
  rw [tailByte, show 0x80 + (b.toNat - 0x80) = b.toNat by omega, UInt8.ofNat_toNat]

/-- A pending character whose bounds lie between those of all bytes that are no first bytes. -/
lemma exists_eq_tailByte_of_accepts {p : Pending} (hlow : 0x80 ≤ p.low) (hhigh : p.high ≤ 0xBF)
    {b : UInt8} (haccepts : p.accepts b) : ∃ y < 64, b = tailByte y := by
  rw [Pending.accepts, Bool.and_eq_true, decide_eq_true_eq, decide_eq_true_eq] at haccepts
  exact exists_eq_tailByte (UInt8.le_trans hlow haccepts.1) (UInt8.le_trans haccepts.2 hhigh)

/-- A first byte that is all of a character. -/
lemma encodeChar_of_lead {b : UInt8} {c : Char} (h : lead b = .single c) :
    String.utf8EncodeChar c = [b] := by
  rcases lead_cases b with ⟨x, hx, rfl⟩ | ⟨x, hx, hx', rfl⟩ | ⟨x, hx, rfl⟩ | ⟨x, hx, rfl⟩ | hinvalid
  · rw [lead_one hx] at h
    cases h
    exact encodeChar_one hx
  · rw [lead_two hx hx'] at h
    cases h
  · rw [lead_three hx] at h
    cases h
  · rw [lead_four hx] at h
    cases h
  · rw [hinvalid] at h
    cases h

/-- A first byte that is not all of a character spells it. -/
lemma spells_lead {b : UInt8} {p : Pending} (h : lead b = .multi p) : p.Spells [b] := by
  rcases lead_cases b with ⟨x, hx, rfl⟩ | ⟨x, hx, hx', rfl⟩ | ⟨x, hx, rfl⟩ | ⟨x, hx, rfl⟩ | hinvalid
  · rw [lead_one hx] at h
    cases h
  · rw [lead_two hx hx'] at h
    cases h
    refine ⟨Nat.one_pos, exists_eq_tailByte_of_accepts (UInt8.le_refl _) (UInt8.le_refl _), ?_⟩
    intro ys hlength hbits _
    obtain ⟨y, rfl⟩ := List.length_eq_one_iff.mp hlength
    exact encodeChar_two hx hx' (hbits y (by simp))
  · rw [lead_three hx] at h
    cases h
    refine ⟨Nat.two_pos, exists_eq_tailByte_of_accepts ?_ ?_, ?_⟩
    · dsimp only
      split <;> decide
    · dsimp only
      split <;> decide
    · intro ys hlength hbits hfirst
      obtain ⟨y, z, rfl⟩ := List.length_eq_two.mp hlength
      have hy : y < 64 := hbits y (by simp)
      obtain ⟨hlow, hhigh⟩ := (accepts_three hx hy 1).mp (hfirst y rfl)
      exact encodeChar_three hx hy (hbits z (by simp)) hlow hhigh
  · rw [lead_four hx] at h
    cases h
    refine ⟨Nat.succ_pos 2, exists_eq_tailByte_of_accepts ?_ ?_, ?_⟩
    · dsimp only
      split <;> decide
    · dsimp only
      split <;> decide
    · intro ys hlength hbits hfirst
      obtain ⟨y, z, u, rfl⟩ := List.length_eq_three.mp hlength
      have hy : y < 64 := hbits y (by simp)
      obtain ⟨hlow, hhigh⟩ := (accepts_four hx hy 1).mp (hfirst y rfl)
      exact encodeChar_four hx hy (hbits z (by simp)) (hbits u (by simp)) hlow hhigh
  · rw [hinvalid] at h
    cases h

/-- One byte more of a character that has more. -/
lemma Pending.Spells.more {p : Pending} {read : Bytes} {y : ℕ} (h : p.Spells read) (hy : y < 64)
    (hneed : 1 < p.need) (haccepts : p.accepts (tailByte y)) :
    Pending.Spells ⟨p.need - 1, 0x80, 0xBF, p.code * 64 + y, p.taken + 1⟩
      (read ++ [tailByte y]) where
  need_pos := by
    dsimp only
    omega
  tail := exists_eq_tailByte_of_accepts (UInt8.le_refl _) (UInt8.le_refl _)
  completes := by
    intro ys hlength hbits _
    have hlength : ys.length = p.need - 1 := hlength
    have hlengthAll : (y :: ys).length = p.need := by
      rw [List.length_cons, hlength]
      omega
    have hwhole := h.completes hlengthAll (List.forall_mem_cons.mpr ⟨hy, hbits⟩)
      (fun first hfirst => Option.some.inj hfirst ▸ haccepts)
    rw [List.append_assoc]
    exact hwhole

/-- Bytes that are read as a text are the bytes of the text, together with those of the pending
character that were read before. -/
lemma encode_of_textOf (bytes : Bytes) (index : ℕ) (text : List Char) :
    (textOf index (piecesFrom bytes none) = .ok text → encode text = bytes) ∧
      ∀ p read, Pending.Spells p read → textOf index (piecesFrom bytes (some p)) = .ok text →
        encode text = read ++ bytes := by
  -- a text that starts with a character
  have hchar : ∀ {c pieces index text}, textOf index (.char c :: pieces) = .ok text →
      ∃ later, textOf (index + c.utf8Size) pieces = .ok later ∧
        encode text = String.utf8EncodeChar c ++ encode later := by
    intro c pieces index text h
    rw [textOf] at h
    split at h
    · next later hlater => exact ⟨later, hlater, Except.ok.inj h ▸ rfl⟩
    · cases h
  induction bytes generalizing index text with
  | nil =>
    refine ⟨fun h => ?_, fun p read _ h => ?_⟩
    · cases Except.ok.inj h
      rfl
    · rw [piecesFrom, textOf] at h
      cases h
  | cons b rest ih =>
    refine ⟨fun h => ?_, fun p read hspells h => ?_⟩
    · rw [piecesFrom, enter] at h
      split at h
      · next c hlead =>
        obtain ⟨later, hlater, htext⟩ := hchar h
        rw [htext, (ih _ _).1 hlater, encodeChar_of_lead hlead]
        rfl
      · next p hlead => exact (ih _ _).2 p [b] (spells_lead hlead) h
      · cases h
    · rw [piecesFrom] at h
      split at h
      · next haccepts =>
        obtain ⟨y, hy, rfl⟩ := hspells.tail haccepts
        rw [extend_tailByte hy] at h
        split at h
        · next hneed =>
          obtain ⟨later, hlater, htext⟩ := hchar h
          have hpos := hspells.need_pos
          have hlength : [y].length = p.need := by
            rw [List.length_singleton]
            omega
          have hspelled := hspells.completes hlength (List.forall_mem_singleton.mpr hy)
            (fun first hfirst => Option.some.inj hfirst ▸ haccepts)
          rw [htext, (ih _ _).1 hlater, ← List.singleton_append, ← List.append_assoc]
          exact congrArg (· ++ rest) hspelled
        · next hneed =>
          have hmore := hspells.more hy (by omega) haccepts
          rw [(ih _ _).2 _ _ hmore h, List.append_assoc]
          rfl
      · rw [textOf] at h
        cases h

/-- **Text and its bytes.** Bytes are read as a text exactly when they are the bytes of the text. -/
theorem decode?_eq_ok_iff {bytes : Bytes} {text : List Char} :
    decode? bytes = .ok text ↔ bytes = encode text := by
  constructor
  · intro h
    exact ((encode_of_textOf bytes 0 text).1 h).symm
  · rintro rfl
    exact decode?_encode text

/-! ### Line feeds -/

/-- A character that has more bytes does not go on with a line feed. -/
lemma accepts_newline_of_lead {b : UInt8} {p : Pending} (h : lead b = .multi p) :
    p.accepts 0x0A = false := by
  by_contra haccepts
  obtain ⟨y, hy, hbyte⟩ := (spells_lead h).tail (Bool.eq_true_of_not_eq_false haccepts)
  have hall : ∀ y < 64, 0x0A ≠ tailByte y := by decide
  exact hall y hy hbyte

/-- A line feed ends whatever is read before it. -/
lemma exists_piecesFrom_newline (before rest : Bytes) (pending : Option Pending)
    (h : ∀ p ∈ pending, p.accepts 0x0A = false) :
    ∃ first, piecesFrom (before ++ 0x0A :: rest) pending =
      first ++ .char '\n' :: piecesFrom rest none := by
  -- the line feed is a character, and so is what a first byte starts with
  have henter : ∀ {b : UInt8} {go : Option Pending → List Piece},
      (∀ pending, (∀ p ∈ pending, p.accepts 0x0A = false) →
        ∃ first, go pending = first ++ .char '\n' :: piecesFrom rest none) →
      ∃ first, enter b go = first ++ .char '\n' :: piecesFrom rest none := by
    intro b go hgo
    obtain ⟨first, hfirst⟩ := hgo none (fun p hp => by cases hp)
    unfold enter
    split
    · next c _ => exact ⟨.char c :: first, by rw [hfirst]; rfl⟩
    · next p hlead =>
      exact hgo (some p) fun q hq => Option.some.inj hq ▸ accepts_newline_of_lead hlead
    · exact ⟨.bad 1 :: first, by rw [hfirst]; rfl⟩
  induction before generalizing pending with
  | nil =>
    cases pending with
    | none => exact ⟨[], rfl⟩
    | some p =>
      refine ⟨[.bad p.taken], ?_⟩
      rw [List.nil_append, piecesFrom, if_neg (by rw [h p rfl]; decide)]
      rfl
  | cons b before ih =>
    rw [List.cons_append]
    cases pending with
    | none =>
      rw [piecesFrom]
      exact henter ih
    | some p =>
      rw [piecesFrom]
      split
      · split
        · obtain ⟨first, hfirst⟩ := ih none (fun p hp => by cases hp)
          exact ⟨_ :: first, by rw [hfirst]; rfl⟩
        · exact ih _ fun q hq => Option.some.inj hq ▸ rfl
      · obtain ⟨first, hfirst⟩ := henter (b := b) ih
        exact ⟨.bad p.taken :: first, by rw [hfirst]; rfl⟩

/-- **Text after a line feed.** What follows a line feed is read in the same way whatever bytes
stand before it. -/
theorem exists_lossy_append_newline (before rest : Bytes) :
    ∃ first, lossy (before ++ 0x0A :: rest) = first ++ '\n' :: lossy rest := by
  obtain ⟨first, hfirst⟩ := exists_piecesFrom_newline before rest none (fun p hp => by cases hp)
  refine ⟨first.map Piece.toChar, ?_⟩
  unfold lossy pieces
  rw [hfirst, List.map_append, List.map_cons]
  rfl

/-- The bytes of a text in ASCII. -/
lemma encode_of_ascii {text : List Char} (h : ∀ c ∈ text, c.toNat < 0x80) :
    encode text = text.map fun c => UInt8.ofNat c.toNat := by
  induction text with
  | nil => rfl
  | cons c text ih =>
    have hc := encodeChar_one (h c List.mem_cons_self)
    rw [Char.ofNat_toNat] at hc
    have hencode : encode (c :: text) = String.utf8EncodeChar c ++ encode text := rfl
    rw [hencode, hc, ih fun d hd => h d (List.mem_cons_of_mem c hd)]
    rfl

/-- A character past ASCII has no bytes of ASCII. -/
lemma le_of_mem_encodeChar {c : Char} (hc : 0x80 ≤ c.toNat) {b : UInt8}
    (hb : b ∈ String.utf8EncodeChar c) : 0x80 ≤ b := by
  have hlead : ∀ x < 64, (0x80 : UInt8) ≤ UInt8.ofNat (0xC0 + x) := by decide
  have htail : ∀ y < 64, (0x80 : UInt8) ≤ UInt8.ofNat (0x80 + y) := by decide
  have hhigh : ∀ x < 16, (0x80 : UInt8) ≤ UInt8.ofNat (0xE0 + x) := by decide
  have hhighest : ∀ x < 5, (0x80 : UInt8) ≤ UInt8.ofNat (0xF0 + x) := by decide
  cases bits c with
  | @one x hx =>
    have hcode : (Char.ofNat x).toNat = x := by
      rw [Char.toNat_ofNat, if_pos (.inl (by omega))]
    omega
  | two hx hx' hy =>
    rw [encodeChar_two hx hx' hy] at hb
    simp only [List.mem_cons, List.not_mem_nil, or_false] at hb
    rcases hb with rfl | rfl
    · exact hlead _ (by omega)
    · exact htail _ hy
  | three hx hy hz hlow hhigh' =>
    rw [encodeChar_three hx hy hz hlow hhigh'] at hb
    simp only [List.mem_cons, List.not_mem_nil, or_false] at hb
    rcases hb with rfl | rfl | rfl
    · exact hhigh _ hx
    · exact htail _ hy
    · exact htail _ hz
  | four hx hy hz hu hlow hhigh' =>
    rw [encodeChar_four hx hy hz hu hlow hhigh'] at hb
    simp only [List.mem_cons, List.not_mem_nil, or_false] at hb
    rcases hb with rfl | rfl | rfl | rfl
    · exact hhighest _ hx
    · exact htail _ hy
    · exact htail _ hz
    · exact htail _ hu

/-- The text whose characters are the bytes, if these are ASCII. -/
def asciiText (bytes : Bytes) : List Char :=
  bytes.map fun b => Char.ofNat b.toNat

/-- ASCII bytes are the bytes of their text. -/
lemma encode_asciiText {bytes : Bytes} (h : ∀ b ∈ bytes, b < 0x80) :
    encode (asciiText bytes) = bytes := by
  induction bytes with
  | nil => rfl
  | cons b bytes ih =>
    have hb : b.toNat < 0x80 := UInt8.lt_iff_toNat_lt.mp (h b List.mem_cons_self)
    have hrest := ih fun c hc => h c (List.mem_cons_of_mem b hc)
    have hencode : encode (asciiText (b :: bytes)) =
        String.utf8EncodeChar (Char.ofNat b.toNat) ++ encode (asciiText bytes) := rfl
    rw [hencode, encodeChar_one hb, hrest, UInt8.ofNat_toNat, List.singleton_append]

/-- The lossy reading of the bytes of a text is the text. -/
lemma lossy_encode (text : List Char) : lossy (encode text) = text := by
  have hpieces := piecesFrom_encode text []
  rw [List.append_nil, piecesFrom, List.append_nil] at hpieces
  unfold lossy pieces
  rw [hpieces, List.map_map]
  exact List.map_id'' (fun _ => rfl) text

/-! ### Where a character starts -/

/-- The first byte of a character. -/
def firstByte (c : Char) : UInt8 := (String.utf8EncodeChar c).headD 0

/-- The bytes of a character start with its first byte, and so do those of a text. -/
lemma exists_encode_cons (c : Char) (text : List Char) :
    ∃ tail, String.utf8EncodeChar c = firstByte c :: tail ∧
      encode (c :: text) = firstByte c :: (tail ++ encode text) := by
  have hchar : ∃ tail, String.utf8EncodeChar c = firstByte c :: tail := by
    unfold firstByte String.utf8EncodeChar
    dsimp only
    split_ifs <;> exact ⟨_, rfl⟩
  obtain ⟨tail, htail⟩ := hchar
  refine ⟨tail, htail, ?_⟩
  rw [encode, List.flatMap_cons, htail]
  rfl

/-- The first byte of a character carries its highest bits and tells how many bytes it has. -/
lemma toNat_firstByte (c : Char) :
    (firstByte c).toNat =
      if c.toNat < 0x80 then c.toNat
      else if c.toNat < 0x800 then 0xC0 + c.toNat / 64
      else if c.toNat < 0x10000 then 0xE0 + c.toNat / 4096
      else 0xF0 + c.toNat / 262144 := by
  have hcode : c.toNat = c.val.toNat := rfl
  have hvalid : c.toNat.isValidChar := c.valid
  unfold Nat.isValidChar at hvalid
  unfold firstByte String.utf8EncodeChar
  simp only [← hcode]
  split_ifs <;> simp <;> omega

/-- The first byte of a character is ASCII if the character is. -/
lemma firstByte_lt_iff {c : Char} : firstByte c < 0x80 ↔ c.toNat < 0x80 := by
  have hbyte : firstByte c < 0x80 ↔ (firstByte c).toNat < 0x80 := UInt8.lt_iff_toNat_lt
  rw [hbyte, toNat_firstByte]
  split_ifs <;> omega

/-- The first byte of a character of ASCII has its value. -/
lemma firstByte_ofNat {b : UInt8} (hb : b < 0x80) : firstByte (Char.ofNat b.toNat) = b := by
  rw [firstByte, encodeChar_one (UInt8.lt_iff_toNat_lt.mp hb), UInt8.ofNat_toNat]
  rfl

/-- A character of ASCII is the one whose value its first byte has, and has no other byte. -/
lemma eq_of_firstByte {c : Char} {b : UInt8} (hb : b < 0x80) (h : firstByte c = b) :
    c = Char.ofNat b.toNat ∧ String.utf8EncodeChar c = [b] := by
  subst h
  have hc : c.toNat < 0x80 := firstByte_lt_iff.mp hb
  have hcode : (firstByte c).toNat = c.toNat := by rw [toNat_firstByte, if_pos hc]
  have hchar : c = Char.ofNat (firstByte c).toNat := by rw [hcode, Char.ofNat_toNat]
  refine ⟨hchar, ?_⟩
  have hbytes := encodeChar_one (hcode.trans_lt hc)
  rwa [← hchar, UInt8.ofNat_toNat] at hbytes

/-- Bytes of ASCII and one more byte at the start of a text are characters of ASCII and the first
byte of one more character. -/
lemma exists_of_encode_eq {text : List Char} {front rest : Bytes} {b : UInt8}
    (hfront : ∀ x ∈ front, x < 0x80) (h : encode text = front ++ b :: rest) :
    ∃ c back, text = asciiText front ++ c :: back ∧ firstByte c = b := by
  induction front generalizing text with
  | nil =>
    cases text with
    | nil => cases h
    | cons c text =>
      obtain ⟨tail, -, hencode⟩ := exists_encode_cons c text
      obtain ⟨hb, -⟩ := List.cons.inj (hencode.symm.trans h)
      exact ⟨c, text, rfl, hb⟩
  | cons x front ih =>
    cases text with
    | nil => cases h
    | cons c text =>
      obtain ⟨tail, hc, hencode⟩ := exists_encode_cons c text
      obtain ⟨hx, hrest⟩ := List.cons.inj (hencode.symm.trans h)
      obtain ⟨hchar, hbytes⟩ := eq_of_firstByte (hfront x List.mem_cons_self) hx
      -- a character of ASCII has no more bytes, so that the others are those of the text behind it
      obtain rfl : tail = [] := (List.cons.inj (hc.symm.trans hbytes)).2
      obtain ⟨d, back, rfl, hb⟩ := ih (fun y hy => hfront y (List.mem_cons_of_mem x hy)) hrest
      exact ⟨d, back, congrArg (· :: (asciiText front ++ d :: back)) hchar, hb⟩

end Utf8

end Retrace
