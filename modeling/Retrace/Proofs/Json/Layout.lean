import Mathlib
import Retrace.Json.Record
import Retrace.Proofs.Json.Scalar

/-!
# Objects and lists read back

A reader reads a text as a value if it does so whatever follows, as long as this does not go on with
the text, and if blanks in front do not matter to it (`Reads`). Scalars are read back so, and from
them objects and lists of objects in either layout: the members of an object fill a draft one after
the other (`Fills`), and what stands between them is blanks and commas.
-/

namespace Retrace

namespace Json

/-! ### Blanks -/

/-- Blanks in front are passed over. -/
lemma skipBlank_append {blanks : Bytes} (h : ∀ b ∈ blanks, isBlankByte b) (s : Bytes) :
    skipBlank (blanks ++ s) = skipBlank s := by
  unfold skipBlank
  exact List.dropWhile_append_of_pos h

/-- Nothing is passed over in front of a byte that is not blank. -/
lemma skipBlank_cons {b : UInt8} (h : isBlankByte b = false) (s : Bytes) :
    skipBlank (b :: s) = b :: s := by
  unfold skipBlank
  rw [List.dropWhile_cons, h]
  simp

/-- Blanks are passed over once. -/
lemma skipBlank_skipBlank (s : Bytes) : skipBlank (skipBlank s) = skipBlank s := by
  unfold skipBlank
  induction s with
  | nil => rfl
  | cons b s ih =>
    rw [List.dropWhile_cons]
    split
    · exact ih
    · next h => rw [List.dropWhile_cons, if_neg h]

/-- The line ends and the indentation of a layout are blank. -/
lemma isBlankByte_newline (layout : Layout) (level : ℕ) :
    ∀ b ∈ Utf8.encode (layout.newline level), isBlankByte b := by
  intro b h
  cases layout with
  | compact => cases h
  | indented =>
    have hencode : Utf8.encode (Layout.indented.newline level) =
        0x0A :: (List.replicate (2 * level) ' ').map fun c => UInt8.ofNat c.toNat := by
      rw [Layout.newline, Utf8.encode_of_ascii]
      · rfl
      · intro c hc
        rcases List.mem_cons.mp hc with rfl | hmem
        · decide
        · rw [List.eq_of_mem_replicate hmem]
          decide
    rw [hencode, List.map_replicate] at h
    rcases List.mem_cons.mp h with rfl | hmem
    · decide
    · rw [List.eq_of_mem_replicate hmem]
      decide

/-- After a colon there are only blanks. -/
lemma exists_encode_colon (layout : Layout) :
    ∃ blanks, Utf8.encode layout.colon = colon :: blanks ∧ ∀ b ∈ blanks, isBlankByte b := by
  cases layout with
  | compact => exact ⟨[], rfl, by simp⟩
  | indented => exact ⟨[0x20], rfl, by simp [isBlankByte]⟩

/-- What follows a value ends it. -/
lemma delimited_of_head {b : UInt8}
    (h : isBlankByte b ∨ b = comma ∨ b = closeList ∨ b = closeObject) (rest : Bytes) :
    Delimited (b :: rest) := by
  have hblank : ∀ n < 256, isBlankByte (UInt8.ofNat n) →
      isDigit (UInt8.ofNat n) = false ∧ UInt8.ofNat n ≠ point ∧
        isExponentMark (UInt8.ofNat n) = false := by decide +kernel
  intro c hc
  obtain rfl : b = c := Option.some.inj hc
  rcases h with h | rfl | rfl | rfl
  · have hb := hblank b.toNat b.toNat_lt
    rw [UInt8.ofNat_toNat] at hb
    exact hb h
  · decide
  · decide
  · decide

/-- Blanks in front of what ends a value end it. -/
lemma Delimited.append {blanks rest : Bytes} (h : Delimited rest)
    (hblanks : ∀ b ∈ blanks, isBlankByte b) : Delimited (blanks ++ rest) := by
  cases blanks with
  | nil => exact h
  | cons b blanks => exact delimited_of_head (.inl (hblanks b List.mem_cons_self)) _

/-! ### Texts that are read as values -/

/-- The reader reads the text as the value. The text starts as no blank, no `null` and no end of a
list does, and blanks in front of it do not matter. -/
structure Reads {α : Type} (reader : Reader α) (text : List Char) (value : α) : Prop where
  skips (s : Bytes) : reader (skipBlank s) = reader s
  starts : ∃ b bytes, Utf8.encode text = b :: bytes ∧
    isBlankByte b = false ∧ b ≠ 0x6E ∧ b ≠ closeList
  reads {rest : Bytes} (h : Delimited rest) : reader (Utf8.encode text ++ rest) = .ok (value, rest)

section Readers

variable {α β : Type} {reader : Reader α} {text : List Char} {value : α}

/-- The text after blanks. -/
lemma Reads.reads_after (h : Reads reader text value) {blanks rest : Bytes}
    (hblanks : ∀ b ∈ blanks, isBlankByte b) (hrest : Delimited rest) :
    reader (blanks ++ (Utf8.encode text ++ rest)) = .ok (value, rest) := by
  rw [← h.skips, skipBlank_append hblanks, h.skips]
  exact h.reads hrest

/-- The same text read as a function of the value. -/
lemma Reads.map (h : Reads reader text value) (f : α → β) :
    Reads (reader.map f) text (f value) where
  skips s := by
    unfold Reader.map
    rw [h.skips]
  starts := h.starts
  reads hrest := by
    unfold Reader.map
    rw [h.reads hrest]
    rfl

/-- The same text where `null` may stand. -/
lemma Reads.optional (h : Reads reader text value) : Reads reader.optional text (some value) where
  skips s := by
    unfold Reader.optional
    rw [skipBlank_skipBlank]
  starts := h.starts
  reads {rest} hrest := by
    obtain ⟨b, bytes, htext, hblank, hnull, -⟩ := h.starts
    have hread := h.reads hrest
    rw [htext, List.cons_append] at hread ⊢
    unfold Reader.optional
    rw [skipBlank_cons hblank]
    simp only [hnull, if_false, hread]
    rfl

/-- The whole of a text. -/
lemma Reads.read_eq (h : Reads reader text value) : read reader (Utf8.encode text) = .ok value := by
  have hend : Delimited [] := fun b hb => by cases hb
  have hread := h.reads hend
  rw [List.append_nil] at hread
  rw [read, hread]
  rfl

end Readers

/-- A string. -/
lemma reads_text (s : String) : Reads Reader.text (Scalar.text s).chars s where
  skips t := by
    unfold Reader.text
    rw [skipBlank_skipBlank]
  starts := ⟨quote, _, encode_stringText s, by decide, by decide, by decide⟩
  reads {rest} _ := by
    have htext : Utf8.encode (Scalar.text s).chars = _ := encode_stringText s
    rw [htext, List.cons_append, List.append_assoc, Reader.text, skipBlank_cons (by decide)]
    simp only [if_true, List.singleton_append, string_stringText]
    rw [Except.map, String.ofList_toList]

/-- A number within its bounds. -/
lemma reads_natural {n limit : ℕ} (hn : n ≤ limit) (hlimit : limit ≤ maxSignificand)
    (expected : String) : Reads (Reader.natural limit expected) (Scalar.number n).chars n := by
  have htext : Utf8.encode (Scalar.number n).chars = numeral n := encode_repr n
  obtain ⟨c, others, hdigits⟩ :=
    List.exists_cons_of_ne_nil (Nat.toDigits_ne_nil (n := n) (b := 10))
  have hc : 48 ≤ c.toNat ∧ c.toNat ≤ 57 := isDigit_of_mem_toDigits (hdigits ▸ List.mem_cons_self)
  have hnumeral : numeral n = UInt8.ofNat c.toNat :: others.map fun c => UInt8.ofNat c.toNat := by
    rw [numeral, hdigits, List.map_cons]
  have hall : ∀ n < 58, 48 ≤ n → isBlankByte (UInt8.ofNat n) = false ∧ UInt8.ofNat n ≠ 0x6E ∧
      UInt8.ofNat n ≠ closeList ∧ UInt8.ofNat n ≠ minus := by decide
  obtain ⟨hblank, hnull, hclose, hminus⟩ := hall c.toNat (by omega) hc.1
  refine ⟨?_, ⟨_, _, htext.trans hnumeral, hblank, hnull, hclose⟩, ?_⟩
  · intro s
    unfold Reader.natural
    rw [skipBlank_skipBlank]
  · intro rest hrest
    have hread := number_numeral (hn.trans hlimit) hrest
    rw [hnumeral, List.cons_append] at hread
    rw [htext, hnumeral, List.cons_append, Reader.natural, skipBlank_cons hblank]
    simp only [hminus, if_false, (toNat_sub_of_digit hc).2, if_true, hread, Number.upTo, if_pos hn]

/-! ### Entries -/

/-- Entries one after the other, each after the first with a comma in front. -/
lemma entries_cons (layout : Layout) (level : ℕ) (entry : List Char) (more : List (List Char)) :
    layout.entries level (entry :: more) = layout.newline level ++ entry ++
      more.flatMap fun e => ',' :: (layout.newline level ++ e) := by
  induction more generalizing entry with
  | nil => simp [Layout.entries]
  | cons e more ih =>
    rw [Layout.entries, ih, List.flatMap_cons]
    · simp
    · simp

/-- The bytes of entries in brackets. -/
lemma encode_bracketed (layout : Layout) (level : ℕ) (opening closing : Char) (entry : List Char)
    (more : List (List Char)) :
    Utf8.encode (layout.bracketed level opening closing (entry :: more)) =
      Utf8.encode [opening] ++ (Utf8.encode (layout.newline (level + 1)) ++ (Utf8.encode entry ++
        (Utf8.encode (more.flatMap fun e => ',' :: (layout.newline (level + 1) ++ e)) ++
          (Utf8.encode (layout.newline level) ++ Utf8.encode [closing])))) := by
  have hbracketed : layout.bracketed level opening closing (entry :: more) =
      [opening] ++ (layout.newline (level + 1) ++ (entry ++
        ((more.flatMap fun e => ',' :: (layout.newline (level + 1) ++ e)) ++
          (layout.newline level ++ [closing])))) := by
    rw [Layout.bracketed, entries_cons]
    simp
  rw [hbracketed]
  simp only [Utf8.encode_append]

/-- The bytes of an entry after a comma. -/
lemma encode_entry (layout : Layout) (level : ℕ) (entry more : List Char) :
    Utf8.encode (',' :: (layout.newline level ++ entry) ++ more) =
      comma :: (Utf8.encode (layout.newline level) ++ (Utf8.encode entry ++ Utf8.encode more)) := by
  have hcons : ',' :: (layout.newline level ++ entry) ++ more =
      [','] ++ (layout.newline level ++ (entry ++ more)) := by simp
  rw [hcons, Utf8.encode_append, Utf8.encode_append, Utf8.encode_append]
  rfl

/-- What follows an entry ends it: the comma of the next one, or what follows the last one. -/
lemma delimited_entries (layout : Layout) (level : ℕ) (entries : List (List Char)) {ending : Bytes}
    (hending : Delimited ending) :
    Delimited (Utf8.encode (entries.flatMap fun e => ',' :: (layout.newline level ++ e)) ++
      ending) := by
  cases entries with
  | nil => exact hending
  | cons e entries =>
    rw [List.flatMap_cons, encode_entry]
    exact delimited_of_head (.inr (.inl rfl)) _

/-- A text has at least as many bytes as characters. -/
lemma length_le_length_encode (text : List Char) : text.length ≤ (Utf8.encode text).length := by
  induction text with
  | nil => exact le_rfl
  | cons c text ih =>
    have hpos : 0 < (String.utf8EncodeChar c).length := by
      rw [String.length_utf8EncodeChar]
      exact c.utf8Size_pos
    have hencode : Utf8.encode (c :: text) = String.utf8EncodeChar c ++ Utf8.encode text := rfl
    rw [hencode, List.length_append, List.length_cons]
    omega

/-- There are at least as many bytes as entries. -/
lemma length_le_length_encode_entries (layout : Layout) (level : ℕ) (entries : List (List Char)) :
    entries.length ≤
      (Utf8.encode (entries.flatMap fun e => ',' :: (layout.newline level ++ e))).length := by
  refine le_trans ?_ (length_le_length_encode _)
  induction entries with
  | nil => exact le_rfl
  | cons e entries ih =>
    rw [List.flatMap_cons, List.length_append, List.length_cons, List.length_cons]
    omega

end Json

end Retrace
