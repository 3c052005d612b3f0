import Mathlib
import Retrace.Proofs.Directive.Line
import Retrace.Proofs.Text.Base64
import Retrace.Proofs.Text.Lines
import Retrace.Proofs.Text.Percent
import Retrace.Proofs.Text.Utf8
import Retrace.Tracer

/-!
# Maps appended to files

A map that is appended to a file as a line comment with a `data:` URL is found again byte for byte
(`mapOf?_appended`), whatever the file holds.

The line feed in front of the comment keeps the file from reaching into it, as bytes and as lines,
so that the comment stands on a line of its own, with no mark in front of it (`onLine?_lineComment`),
and all lines after it are blank (`find?_append_lineComment`). Of the value, the comma before the
payload is the first one.
-/

namespace Retrace

namespace Directive

variable {value blanks : List Char}

/-- The mark of a line comment. -/
def lineMark : List Char := "//# ".toList ++ key

/-- A line that is a comment gives the value in it. -/
lemma onLine?_lineComment (hvalue : IsValue value) (hblanks : ∀ c ∈ blanks, Text.isBlank c) :
    onLine? (lineMark ++ value ++ blanks) = some value := by
  have hmark : lineMark ∈ lineMarks := by decide
  have hline : Text.trimEnd (lineMark ++ value ++ blanks) = [] ++ comment lineMark value := by
    rw [Text.trimEnd_append hblanks,
      Text.trimEnd_append_of_not_blank hvalue.ne_nil hvalue.not_blank, comment, closing,
      if_pos hmark, List.append_nil]
    rfl
  refine (onLine?_comment (by decide) hvalue (absurd hmark) hline).1 fun other hother => ?_
  exact absurd hother (by rw [show marksBefore lineMark = [] by decide]; exact List.not_mem_nil)

/-- The value of a file is that of the comment on its last line that is not blank. -/
theorem find?_append_lineComment (first : List Char) (hvalue : IsValue value)
    (hblanks : ∀ c ∈ blanks, Text.isBlank c) :
    find? (first ++ '\n' :: (lineMark ++ value ++ blanks)) = some value := by
  have hline : '\n' ∉ lineMark ++ value := by
    have hmark : '\n' ∉ lineMark := by decide
    have hnot : '\n' ∉ value := fun hmem =>
      absurd (hvalue.not_blank '\n' hmem) (by decide)
    rw [List.mem_append]
    exact fun hmem => hmem.elim hmark hnot
  have hmarkNe : lineMark ++ value ≠ [] := by
    intro hnil
    exact hvalue.ne_nil (List.append_eq_nil_iff.mp hnil).2
  obtain ⟨ending, others, hpieces, hrest⟩ := Text.exists_pieces_append hmarkNe hline blanks
  have hending : ∀ c ∈ ending, Text.isBlank c := by
    intro c hc
    exact hblanks c (hrest ▸ List.mem_append_left others.flatten hc)
  have hnone : others.reverse.findSome? onLine? = none := by
    rw [List.findSome?_eq_none_iff]
    intro piece hpiece
    refine onLine?_of_blank fun c hc => hblanks c ?_
    rw [← hrest]
    exact List.mem_append_right ending
      (List.mem_flatten_of_mem (List.mem_reverse.mp hpiece) hc)
  rw [find?_eq_findSome?, Text.pieces_append_newline, hpieces, List.reverse_append,
    List.reverse_cons, List.findSome?_append, List.findSome?_append, hnone, Option.none_or,
    List.findSome?_singleton, onLine?_lineComment hvalue hending, Option.some_or]

end Directive

namespace MapLocation

/-- A media type that ends in the word says that base64 follows. -/
lemma saysBase64_append (media : List Char) : saysBase64 (media ++ ";base64".toList) = true := by
  have hword : ";base64".toList = ';' :: "base64".toList := rfl
  have hparts : Text.splitOn ';' "base64".toList = ["base64".toList] := by decide
  rw [saysBase64, hword, Text.splitOn_append_cons, hparts, List.any_append, Bool.or_eq_true]
  exact .inr (by decide)

/-- A media type of which no part is the word, in any case, does not say so. -/
lemma saysBase64_eq_false {media : List Char}
    (h : ∀ part ∈ Text.splitOn ';' media, part.map Char.toLower ≠ "base64".toList) :
    saysBase64 media = false := by
  rw [saysBase64, List.any_eq_false]
  intro part hpart hsame
  unfold Text.sameIgnoringCase at hsame
  exact h part hpart (beq_iff_eq.mp hsame)

variable {media payload : List Char} {data : Bytes}

/-- What a `data:` URL in base64 holds. -/
lemma inlineData?_base64 (hcomma : ',' ∉ media) (hpayload : ∀ c ∈ payload, Text.isBlank c = false)
    (hdata : Base64.decode? (Utf8.encode payload) = .ok data) :
    inlineData? (media ++ ";base64".toList ++ ',' :: payload) = .ok data := by
  have hnot : ',' ∉ media ++ ";base64".toList := by
    rw [List.mem_append]
    exact fun hmem => hmem.elim hcomma (by decide)
  have hsplit : Text.splitFirst? [','] (media ++ ";base64".toList ++ ',' :: payload) =
      some (media ++ ";base64".toList, payload) := Text.splitFirst?_append hnot payload
  unfold inlineData?
  rw [hsplit]
  simp only [saysBase64_append, if_true, Text.trim_of_not_blank hpayload, hdata]

/-- What a `data:` URL with escapes holds. -/
lemma inlineData?_escapes (hcomma : ',' ∉ media) (hmedia : saysBase64 media = false)
    {text : List Char} (hdata : Percent.decode (Utf8.encode payload) = Utf8.encode text) :
    inlineData? (media ++ ',' :: payload) = .ok (Utf8.encode text) := by
  have hsplit : Text.splitFirst? [','] (media ++ ',' :: payload) = some (media, payload) :=
    Text.splitFirst?_append hcomma payload
  unfold inlineData?
  rw [hsplit]
  simp only [hmedia, hdata, Utf8.decode?_encode]
  simp

/-- A `data:` URL holds the map itself, wherever its file is. -/
lemma resolve?_data (location : String) {text : List Char} (h : inlineData? text = .ok data) :
    resolve? location (String.ofList (dataMark ++ text)) = .ok (.inline data) := by
  unfold resolve?
  rw [String.toList_ofList, Text.after?_append]
  simp only [h]

end MapLocation

namespace Tracer

/-- A line comment with a `data:` URL, on a line of its own, and what follows on that line and on
lines after it. -/
def inlineComment (media : List Char) (payload : Bytes) (trailing : List Char) : Bytes :=
  0x0A :: (Utf8.encode ("//# sourceMappingURL=data:".toList ++ media ++ [',']) ++ payload ++
    Utf8.encode trailing)

/-- A byte that stands for itself in the value of a directive. -/
def IsValueByte (b : UInt8) : Prop :=
  b < 0x80 ∧ Directive.isForbidden (Char.ofNat b.toNat) = false

instance : DecidablePred IsValueByte := fun b => by
  unfold IsValueByte
  infer_instance

/-- The bytes of base64. -/
lemma isValueByte_of_mem_base64 {data payload : Bytes}
    (hpayload : payload ∈ [Base64.encode data, Base64.encodePadded data]) {b : UInt8}
    (hb : b ∈ payload) : IsValueByte b := by
  have hsymbol : ∀ d < 64, IsValueByte (Base64.symbol d) := by decide +kernel
  have hpad : IsValueByte Base64.pad := by decide +kernel
  have hencode : b ∈ Base64.encode data → IsValueByte b := by
    intro hmem
    obtain ⟨d, hd, rfl⟩ := List.mem_map.mp hmem
    exact hsymbol d (Base64.lt_of_mem_unpack hd)
  simp only [List.mem_cons, List.not_mem_nil, or_false] at hpayload
  rcases hpayload with rfl | rfl
  · exact hencode hb
  · rcases List.mem_append.mp hb with hmem | hmem
    · exact hencode hmem
    · rw [List.eq_of_mem_replicate hmem]
      exact hpad

/-- The bytes of a text with escapes. -/
lemma isValueByte_of_spells {data payload : Bytes}
    (hpayload : Percent.Spells Percent.isUnreserved payload data) {b : UInt8} (hb : b ∈ payload) :
    IsValueByte b := by
  have hall : ∀ n < 256, Percent.isUnreserved (UInt8.ofNat n) ∨ UInt8.ofNat n = Percent.sign ∨
      (Percent.hexValue? (UInt8.ofNat n)).isSome → IsValueByte (UInt8.ofNat n) := by
    decide +kernel
  have hbyte := hall b.toNat b.toNat_lt
  rw [UInt8.ofNat_toNat] at hbyte
  exact hbyte (hpayload.mem hb)

/-- The comment after any file gives what its URL holds. -/
lemma mapOf?_inlineComment {file payload data : Bytes} {media blanks : List Char}
    (hmedia : ∀ c ∈ media, Directive.isForbidden c = false)
    (hpayload : ∀ b ∈ payload, IsValueByte b) (hblanks : ∀ c ∈ blanks, Text.isBlank c)
    (hdata : MapLocation.inlineData? (media ++ ',' :: Utf8.asciiText payload) = .ok data)
    (location : String) :
    mapOf? location (file ++ inlineComment media payload blanks) = .ok (.inline data) := by
  have hencode : Utf8.encode (Utf8.asciiText payload) = payload :=
    Utf8.encode_asciiText fun b hb => (hpayload b hb).1
  have hcomment : inlineComment media payload blanks = 0x0A :: Utf8.encode
      (Directive.lineMark ++ (MapLocation.dataMark ++ (media ++ ',' :: Utf8.asciiText payload)) ++
        blanks) := by
    have hmark : "//# sourceMappingURL=data:".toList =
        Directive.lineMark ++ MapLocation.dataMark := by
      decide +kernel
    have hcomma : Utf8.encode (',' :: Utf8.asciiText payload) =
        Utf8.encode [','] ++ Utf8.encode (Utf8.asciiText payload) :=
      Utf8.encode_append [','] (Utf8.asciiText payload)
    unfold inlineComment
    rw [hmark]
    simp only [Utf8.encode_append, hcomma, hencode, List.append_assoc]
  have hvalue : ∀ c ∈ MapLocation.dataMark ++ (media ++ ',' :: Utf8.asciiText payload),
      Directive.isForbidden c = false := by
    have hmark : ∀ c ∈ MapLocation.dataMark, Directive.isForbidden c = false := by
      simp [MapLocation.dataMark, Directive.isForbidden, Text.isBlank, Text.blankRanges]
    have hcomma : Directive.isForbidden ',' = false := by decide
    intro c hc
    simp only [List.mem_append, List.mem_cons] at hc
    rcases hc with hc | hc | rfl | hc
    · exact hmark c hc
    · exact hmedia c hc
    · exact hcomma
    · obtain ⟨b, hb, rfl⟩ := List.mem_map.mp hc
      exact (hpayload b hb).2
  have hne : MapLocation.dataMark ++ (media ++ ',' :: Utf8.asciiText payload) ≠ [] := by
    simp [MapLocation.dataMark]
  have hfind := Directive.isValue_iff.mpr ⟨hne, hvalue⟩
  rw [hcomment]
  obtain ⟨first, hfirst⟩ := Utf8.exists_lossy_append_newline file (Utf8.encode
    (Directive.lineMark ++ (MapLocation.dataMark ++ (media ++ ',' :: Utf8.asciiText payload)) ++
      blanks))
  unfold mapOf?
  rw [hfirst, Utf8.lossy_encode, Directive.find?_append_lineComment first hfind hblanks]
  simp only [MapLocation.resolve?_data location hdata]

/-- **Appended maps.** A map that is appended to a file, in a line comment with a `data:` URL and
perhaps with blanks and blank lines after it, is found again byte for byte, whatever bytes the file
holds and wherever it is: in base64, padded or not, and if the map is text also with an escape for
each byte that needs one, unless the media type says that base64 follows. -/
theorem mapOf?_appended (location : String) (file data : Bytes) {media blanks : List Char}
    (hcomma : ',' ∉ media) (hmedia : ∀ c ∈ media, Directive.isForbidden c = false)
    (hblanks : ∀ c ∈ blanks, Text.isBlank c) :
    (∀ payload ∈ [Base64.encode data, Base64.encodePadded data],
      mapOf? location (file ++ inlineComment (media ++ ";base64".toList) payload blanks) =
        .ok (.inline data)) ∧
    ∀ text payload, data = Utf8.encode text →
      (∀ part ∈ Text.splitOn ';' media, part.map Char.toLower ≠ "base64".toList) →
      Percent.Spells Percent.isUnreserved payload data →
      mapOf? location (file ++ inlineComment media payload blanks) = .ok (.inline data) := by
  refine ⟨?_, ?_⟩
  · intro payload hpayload
    have hbytes : ∀ b ∈ payload, IsValueByte b := fun b hb => isValueByte_of_mem_base64 hpayload hb
    have hencode : Utf8.encode (Utf8.asciiText payload) = payload :=
      Utf8.encode_asciiText fun b hb => (hbytes b hb).1
    have hmedia' : ∀ c ∈ media ++ ";base64".toList, Directive.isForbidden c = false := by
      have hword : ∀ c ∈ ";base64".toList, Directive.isForbidden c = false := by
        simp [Directive.isForbidden, Text.isBlank, Text.blankRanges]
      intro c hc
      exact (List.mem_append.mp hc).elim (hmedia c) (hword c)
    have hnot : ∀ c ∈ Utf8.asciiText payload, Text.isBlank c = false := by
      intro c hc
      obtain ⟨b, hb, rfl⟩ := List.mem_map.mp hc
      exact (Directive.isForbidden_eq_false_iff.mp (hbytes b hb).2).1
    have hread : Base64.decode? payload = .ok data := by
      simp only [List.mem_cons, List.not_mem_nil, or_false] at hpayload
      rcases hpayload with rfl | rfl
      · exact Base64.decode?_encode data
      · exact Base64.decode?_encodePadded data
    exact mapOf?_inlineComment hmedia' hbytes hblanks
      (MapLocation.inlineData?_base64 hcomma hnot (hencode.symm ▸ hread)) location
  · intro text payload htext hword hspells
    have hbytes : ∀ b ∈ payload, IsValueByte b := fun b hb => isValueByte_of_spells hspells hb
    have hencode : Utf8.encode (Utf8.asciiText payload) = payload :=
      Utf8.encode_asciiText fun b hb => (hbytes b hb).1
    have hread : Percent.decode (Utf8.encode (Utf8.asciiText payload)) = Utf8.encode text := by
      rw [hencode, ← htext]
      exact hspells.decode_eq (by decide)
    rw [htext]
    have hdata :=
      MapLocation.inlineData?_escapes hcomma (MapLocation.saysBase64_eq_false hword) hread
    exact mapOf?_inlineComment hmedia hbytes hblanks hdata location

/-- A short map after a file that is no text, with a line end, a blank line and a no-break space
after it. -/
theorem mapOf?_appended_smallMap :
    let data := Utf8.encode "\x7b\x22a\x22:\x22é\x22\x7d".toList
    let media := "application/json;charset=utf-8".toList
    let blanks := ['\r', '\n', ' ', '\n', '\u00A0']
    mapOf? "app.js" ([0x61, 0x0A, 0xE2, 0x82] ++ inlineComment (media ++ ";base64".toList)
      (Base64.encodePadded data) blanks) = .ok (.inline data) ∧
    mapOf? "app.js" ([0x61, 0x0A, 0xE2, 0x82] ++ inlineComment media
      (Percent.encode Percent.isUnreserved data) blanks) = .ok (.inline data) := by
  intro data media blanks
  have hmedia : ∀ c ∈ media, Directive.isForbidden c = false := by
    simp [media, Directive.isForbidden, Text.isBlank, Text.blankRanges]
  have hblanks : ∀ c ∈ blanks, Text.isBlank c := by
    simp [blanks, Text.isBlank, Text.blankRanges]
  obtain ⟨hbase64, hescapes⟩ := mapOf?_appended "app.js" [0x61, 0x0A, 0xE2, 0x82] data
    (by decide) hmedia hblanks
  exact ⟨hbase64 _ (by simp), hescapes _ _ rfl (by decide +kernel) (Percent.spells_encode _ data)⟩

end Tracer

end Retrace
