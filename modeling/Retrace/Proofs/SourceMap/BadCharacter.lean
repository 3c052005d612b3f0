import Mathlib
import Retrace.Proofs.SourceMap.LeftToRight
import Retrace.Proofs.SourceMap.Numerals

/-!
# The character that is reported

A text of mappings is read byte by byte, and a byte that is no digit is reported as the character of
its value (`Mappings.reported`). What stands in front of it in its segment are digits, which have one
byte each, so that reading never comes to a byte within a character: the byte is the first one of a
character of the text, and this is the first of its segment that is no digit
(`Vlq.decode?_eq_badDigit_iff`).

Whether the character that is reported is the one that stands in the text depends on that character
alone. It is for all of ASCII, where the only byte of a character has its value, and for one other
(`Mappings.reported_firstByte_iff`).
-/

namespace Retrace

namespace Base64

/-! ### Digits as characters -/

/-- The digits in the order of their values, as characters. -/
def alphabet : List Char :=
  "ABCDEFGHIJKLMNOPQRSTUVWXYZabcdefghijklmnopqrstuvwxyz0123456789+/".toList

/-- The characters of the alphabet are the symbols of the digits. -/
lemma alphabet_eq : alphabet = Utf8.asciiText ((List.range 64).map symbol) := by
  decide +kernel

/-- A character is a digit if its first byte is the symbol of one. -/
lemma mem_alphabet_iff {c : Char} : c ∈ alphabet ↔ ∃ d < 64, Utf8.firstByte c = symbol d := by
  rw [alphabet_eq, Utf8.asciiText, List.map_map, List.mem_map]
  constructor
  · rintro ⟨d, hd, rfl⟩
    have hlt : d < 64 := List.mem_range.mp hd
    exact ⟨d, hlt, Utf8.firstByte_ofNat (symbol_lt hlt)⟩
  · rintro ⟨d, hd, hfirst⟩
    obtain ⟨hchar, -⟩ := Utf8.eq_of_firstByte (symbol_lt hd) hfirst
    exact ⟨d, List.mem_range.mpr hd, hchar.symm⟩

end Base64

namespace Vlq

/-- The bytes of digits that say that more follow are symbols. -/
lemma exists_symbol_of_mem_marked {front : List (Fin 32)} {b : UInt8} (h : b ∈ marked front) :
    ∃ d < 64, b = Base64.symbol d := by
  obtain ⟨d, -, rfl⟩ := List.mem_map.mp h
  exact ⟨(d : ℕ) + 32, by omega, rfl⟩

/-- The bytes of numerals are symbols. -/
lemma exists_symbol_of_mem_numeralsText {ns : List Numeral} {b : UInt8}
    (h : b ∈ numeralsText ns) : ∃ d < 64, b = Base64.symbol d := by
  obtain ⟨n, -, hb⟩ := List.mem_flatMap.mp h
  rcases List.mem_append.mp hb with hb | hb
  · exact exists_symbol_of_mem_marked hb
  · obtain rfl := List.mem_singleton.mp hb
    exact ⟨n.last, by omega, rfl⟩

/-! ### Characters where a digit could stand -/

/-- The digits in front of a place where one more digit could stand: those of numerals and at most
six that say that more follow. -/
structure Opening where
  numerals : List Numeral
  front : List (Fin 32)
  length_front_le : front.length ≤ 6

/-- The bytes of an opening. -/
def Opening.bytes (o : Opening) : Bytes := numeralsText o.numerals ++ marked o.front

/-- The text of an opening. -/
def Opening.text (o : Opening) : List Char := Utf8.asciiText o.bytes

lemma Opening.exists_symbol {o : Opening} {b : UInt8} (h : b ∈ o.bytes) :
    ∃ d < 64, b = Base64.symbol d := by
  rcases List.mem_append.mp h with hb | hb
  · exact exists_symbol_of_mem_numeralsText hb
  · exact exists_symbol_of_mem_marked hb

lemma Opening.lt_of_mem {o : Opening} {b : UInt8} (h : b ∈ o.bytes) : b < 0x80 := by
  obtain ⟨d, hd, rfl⟩ := o.exists_symbol h
  exact Base64.symbol_lt hd

/-- All characters of an opening are digits. -/
lemma Opening.mem_alphabet {o : Opening} {c : Char} (h : c ∈ o.text) : c ∈ Base64.alphabet := by
  obtain ⟨b, hb, rfl⟩ := List.mem_map.mp h
  obtain ⟨d, hd, rfl⟩ := o.exists_symbol hb
  rw [Base64.alphabet_eq]
  exact List.mem_map_of_mem (List.mem_map_of_mem (List.mem_range.mpr hd))

/-- The first byte of a character that is no digit is reported where a digit could stand, and no
other byte ever is. -/
lemma decode?_eq_badDigit_iff {text : List Char} {b : UInt8} :
    decode? (Utf8.encode text) = .error (.badDigit b) ↔
      ∃ (o : Opening) (c : Char) (back : List Char),
        text = o.text ++ c :: back ∧ c ∉ Base64.alphabet ∧ Utf8.firstByte c = b := by
  rw [decode?_eq_iff_reads]
  constructor
  · intro h
    generalize hbytes : Utf8.encode text = bytes at h
    cases h with
    | badDigit ns front hlength hb rest =>
      set o : Opening := ⟨ns, front, hlength⟩
      have hsplit : Utf8.encode text = o.bytes ++ b :: rest := by
        rw [hbytes, Opening.bytes, List.append_assoc]
      obtain ⟨c, back, htext, hc⟩ :=
        Utf8.exists_of_encode_eq (fun _ hx => o.lt_of_mem hx) hsplit
      refine ⟨o, c, back, htext, ?_, hc⟩
      rw [Base64.mem_alphabet_iff, hc]
      rintro ⟨d, hd, hsymbol⟩
      exact hb d hd hsymbol
  · rintro ⟨o, c, back, rfl, hc, rfl⟩
    obtain ⟨tail, -, hback⟩ := Utf8.exists_encode_cons c back
    have hb : ∀ d < 64, Utf8.firstByte c ≠ Base64.symbol d := by
      intro d hd hsymbol
      exact hc (Base64.mem_alphabet_iff.mpr ⟨d, hd, hsymbol⟩)
    have hencode : Utf8.encode (o.text ++ c :: back) =
        numeralsText o.numerals ++
          (marked o.front ++ Utf8.firstByte c :: (tail ++ Utf8.encode back)) := by
      rw [Utf8.encode_append, Opening.text, Utf8.encode_asciiText fun _ hx => o.lt_of_mem hx,
        hback, Opening.bytes, List.append_assoc]
    rw [hencode]
    exact Reads.badDigit o.numerals o.front o.length_front_le hb _

end Vlq

namespace Mappings

/-! ### What is reported of a text -/

/-- The character that is reported for a byte that is no digit: the one of its value. -/
def reported (b : UInt8) : Char := Char.ofNat b.toNat

/-- The code point of what is reported is the value of the byte. -/
lemma toNat_reported (b : UInt8) : (reported b).toNat = b.toNat := by
  have hlt : b.toNat < 0x100 := b.toNat_lt
  have hvalid : b.toNat.isValidChar := .inl (by omega)
  rw [reported, Char.toNat_ofNat, if_pos hvalid]

/-- For the first byte of a character this character is reported if it is in ASCII or the one other
whose first byte has its value. -/
lemma reported_firstByte_iff {c : Char} :
    reported (Utf8.firstByte c) = c ↔ c.toNat < 0x80 ∨ c = 'Ã' := by
  have hvalue : ('Ã' : Char).toNat = 0xC3 := rfl
  have hchar : ∀ {d e : Char}, d = e ↔ d.toNat = e.toNat := Char.toNat_inj.symm
  rw [hchar, toNat_reported, Utf8.toNat_firstByte, hchar, hvalue]
  split_ifs <;> omega

/-- A segment is in error for a byte that is no digit if its numbers are. -/
lemma segment?_eq_badDigit_iff {line : ℕ} {column : ℤ} {sums : Sums} {text : List Char}
    {b : UInt8} :
    segment? line column sums text = .error (.badDigit b) ↔
      Vlq.decode? (Utf8.encode text) = .error (.badDigit b) := by
  have hplace : ∀ quantity value, place? quantity text line value ≠ .error (.badDigit b) := by
    intro quantity value
    unfold place?
    split_ifs <;> simp
  have horigin : ∀ sums, origin? text line sums ≠ .error (.badDigit b) := by
    intro sums
    simp [origin?, bind_eq_error_iff, hplace, pure, Except.pure]
  have hnumbers : numbers? text = .error (.badDigit b) ↔
      Vlq.decode? (Utf8.encode text) = .error (.badDigit b) := by
    unfold numbers?
    split
    · next values hvalues => simp [hvalues]
    · next e he => cases e <;> simp [he, Error.ofVlq]
  rw [segment?, bind_eq_error_iff, hnumbers, or_iff_left_iff_imp]
  rintro ⟨numbers, -, hrest⟩
  -- behind the numbers only sums and their count can be in error
  split at hrest <;>
    simp [bind_eq_error_iff, hplace, horigin, pure, Except.pure] at hrest

/-- A segment that fails for a byte that is no digit has a character in place of a digit. -/
lemma FailsAt.exists_opening {text before segment after : List Char} {b : UInt8}
    {p : Progress (ℤ × Sums)} (h : FailsAt text (.badDigit b) before segment after p) :
    ∃ (o : Vlq.Opening) (c : Char) (back : List Char),
      segment = o.text ++ c :: back ∧ c ∉ Base64.alphabet ∧ Utf8.firstByte c = b :=
  Vlq.decode?_eq_badDigit_iff.mp (segment?_eq_badDigit_iff.mp h.segment_eq)

/-- A text fails for a byte that is no digit if this is the first one of a character in place of a
digit and the text in front of its segment can be read. -/
lemma decode?_eq_badDigit_iff {text : List Char} {b : UInt8} :
    decode? text = .error (.badDigit b) ↔
      ∃ (before after back : List Char) (o : Vlq.Opening) (c : Char) (m : Mappings),
        text = before ++ (o.text ++ c :: back ++ after) ∧ decode? before = .ok m ∧
          Stands before (o.text ++ c :: back) after ∧ c ∉ Base64.alphabet ∧
          Utf8.firstByte c = b := by
  rw [decode?_eq_error_iff_failsAt]
  constructor
  · rintro ⟨before, segment, after, p, hfails⟩
    obtain ⟨o, c, back, rfl, hc, hfirst⟩ := hfails.exists_opening
    have hbefore : decode? before = .ok p.mappings :=
      decode?_eq_ok_iff.mpr ⟨p, hfails.before_eq, rfl⟩
    exact ⟨before, after, back, o, c, _, hfails.text_eq, hbefore, hfails.stands, hc, hfirst⟩
  · rintro ⟨before, after, back, o, c, m, htext, hbefore, hstands, hc, hfirst⟩
    obtain ⟨p, hp, -⟩ := decode?_eq_ok_iff.mp hbefore
    have hsegment : Vlq.decode? (Utf8.encode (o.text ++ c :: back)) = .error (.badDigit b) :=
      Vlq.decode?_eq_badDigit_iff.mpr ⟨o, c, back, rfl, hc, hfirst⟩
    exact ⟨before, _, after, p, htext, hstands, hp, segment?_eq_badDigit_iff.mpr hsegment⟩

/-- **The character that is reported.**  A text fails for a byte that is no digit exactly if this is
the first byte of a character in place of a digit, and the text in front of its segment can be read.
This segment is the first bad one, and the character is the first in it that is no digit. The byte is
reported as the character of its value, and this is the one that stands in the text exactly if that
one is in ASCII, or is the one other whose first byte has its value. -/
theorem decode?_badCharacter (text : List Char) (b : UInt8) :
    (decode? text = .error (.badDigit b) ↔
      ∃ (before after back : List Char) (o : Vlq.Opening) (c : Char) (m : Mappings),
        text = before ++ (o.text ++ c :: back ++ after) ∧ decode? before = .ok m ∧
          Stands before (o.text ++ c :: back) after ∧ c ∉ Base64.alphabet ∧
          Utf8.firstByte c = b) ∧
    (decode? text = .error (.badDigit b) →
      ∃ before segment after p, FailsAt text (.badDigit b) before segment after p) ∧
    (∀ before segment after p, FailsAt text (.badDigit b) before segment after p →
      ∃ c, c ∈ text ∧ c ∉ Base64.alphabet ∧
        segment.find? (fun d => d ∉ Base64.alphabet) = some c ∧ Utf8.firstByte c = b ∧
        (reported b = c ↔ c.toNat < 0x80 ∨ c = 'Ã')) ∧
    (Error.badDigit b).message = "invalid VLQ character: " ++ quotedSingle (reported b) := by
  refine ⟨decode?_eq_badDigit_iff, decode?_eq_error_iff_failsAt.mp, ?_, rfl⟩
  intro before segment after p hfails
  obtain ⟨o, c, back, rfl, hc, rfl⟩ := hfails.exists_opening
  have hmem : c ∈ text := by
    rw [hfails.text_eq]
    simp
  have hfind : (o.text ++ c :: back).find? (fun d => d ∉ Base64.alphabet) = some c := by
    rw [List.find?_eq_some_iff_append]
    refine ⟨by simpa using hc, o.text, back, rfl, ?_⟩
    intro d hd
    simpa using o.mem_alphabet hd
  exact ⟨c, hmem, hc, hfind, rfl, reported_firstByte_iff⟩

/-- A text of a single character that is no digit.  What is reported does not stand in it. -/
theorem accent_reported_as_tilde :
    decode? "é".toList = .error (.badDigit 0xC3) ∧ reported 0xC3 = 'Ã' ∧ 'Ã' ∉ "é".toList := by
  refine ⟨by cbv, by decide, by decide⟩

/-- Behind a line and one more digit an exclamation mark is reported, though a character of two
bytes follows.  In its place that character is reported with the first of the two. -/
theorem decode?_marked_accent :
    (∃ before segment after p,
      FailsAt "AAAA;g!é,?".toList (.badDigit 33) before segment after p ∧
        segment.find? (fun d => d ∉ Base64.alphabet) = some '!' ∧ reported 33 = '!') ∧
      decode? "AAAA;gé!".toList = .error (.badDigit 0xC3) := by
  have hbad : decode? "AAAA;g!é,?".toList = .error (.badDigit 33) := by cbv
  have hbefore : decode? "AAAA;".toList = .ok ⟨[⟨0, 0, some ⟨0, 0, 0⟩, none⟩]⟩ := by cbv
  obtain ⟨-, hfails, hreported, -⟩ := decode?_badCharacter "AAAA;g!é,?".toList 33
  obtain ⟨before, segment, after, p, hfails⟩ := hfails hbad
  obtain ⟨c, -, -, hfind, hfirst, hsame⟩ := hreported _ _ _ _ hfails
  have hascii : c.toNat < 0x80 := Utf8.firstByte_lt_iff.mp (by rw [hfirst]; decide)
  obtain rfl : '!' = c := hsame.mpr (.inl hascii)
  refine ⟨⟨before, segment, after, p, hfails, hfind, rfl⟩, ?_⟩
  set o : Vlq.Opening := ⟨[], [0], by decide⟩
  have hopening : o.text = ['g'] := by decide
  have hstands : Stands "AAAA;".toList (o.text ++ 'é' :: ['!']) [] := by
    rw [hopening]
    exact ⟨by simp, by simp, by simp, trivial⟩
  refine (decode?_badCharacter _ _).1.mpr
    ⟨_, [], ['!'], o, 'é', _, ?_, hbefore, hstands, by decide, by decide⟩
  rw [hopening]
  rfl

end Mappings

end Retrace
