import Mathlib
import Retrace.Proofs.Json.Layout

/-!
# Records read back

A record is read member by member into a draft. Members that a draft takes in one after the other
(`Takes`, `Fills`) are read from the text of an object whatever its layout (`reads_object`), and the
objects of a list are read one after the other (`reads_bracketed`). The bytes are more than enough
rounds for either.
-/

namespace Retrace

namespace Json

/-! ### Objects -/

section Objects

variable {δ α : Type} (record : Record δ α) (layout : Layout)

/-- The draft takes the member in. -/
def Takes (draft : δ) (member : String × Scalar) (filled : δ) : Prop :=
  ∀ ⦃rest : Bytes⦄, Delimited rest →
    record.readMember member.1.toList draft
      (Utf8.encode (layout.colon ++ member.2.chars) ++ rest) = .ok (filled, rest)

/-- The draft takes the members in, one after the other. -/
inductive Fills : δ → Members → δ → Prop
  | nil (draft : δ) : Fills draft [] draft
  | cons {draft filled full : δ} {member : String × Scalar} {members : Members}
      (hfirst : Takes record layout draft member filled) (hrest : Fills filled members full) :
      Fills draft (member :: members) full

variable {record} {layout}

/-- More members fill a draft further. -/
lemma Fills.append {draft filled full : δ} {members more : Members}
    (h : Fills record layout draft members filled) (hmore : Fills record layout filled more full) :
    Fills record layout draft (members ++ more) full := by
  induction h with
  | nil => exact hmore
  | cons hfirst _ ih => exact .cons hfirst (ih hmore)

/-- The key of a member is read, wherever it stands. -/
lemma nextKey_member (layout : Layout) (member : String × Scalar) {blanks : Bytes}
    (hblanks : ∀ b ∈ blanks, isBlankByte b) (rest : Bytes) :
    nextKey true (blanks ++ (Utf8.encode (layout.member member) ++ rest)) =
        .ok (some member.1.toList, Utf8.encode (layout.colon ++ member.2.chars) ++ rest) ∧
      nextKey false (comma :: (blanks ++ (Utf8.encode (layout.member member) ++ rest))) =
        .ok (some member.1.toList, Utf8.encode (layout.colon ++ member.2.chars) ++ rest) := by
  have hmember : Utf8.encode (layout.member member) ++ rest =
      quote :: (Utf8.encode (member.1.toList.flatMap escapedChar) ++ quote ::
        (Utf8.encode (layout.colon ++ member.2.chars) ++ rest)) := by
    rw [Layout.member, List.append_assoc, Utf8.encode_append, encode_stringText]
    simp
  have hskip : skipBlank (blanks ++ (Utf8.encode (layout.member member) ++ rest)) =
      quote :: (Utf8.encode (member.1.toList.flatMap escapedChar) ++ quote ::
        (Utf8.encode (layout.colon ++ member.2.chars) ++ rest)) := by
    rw [skipBlank_append hblanks, hmember, skipBlank_cons (by decide)]
  have hkey := string_stringText member.1 (Utf8.encode (layout.colon ++ member.2.chars) ++ rest)
  have hclose : quote ≠ closeObject := by decide
  have hcomma : comma ≠ closeObject := by decide
  refine ⟨?_, ?_⟩
  · unfold nextKey
    rw [hskip]
    simp only [hclose, if_false, if_true, hkey]
    rfl
  · unfold nextKey
    rw [skipBlank_cons (by decide)]
    simp only [hcomma, if_false, if_true, Bool.false_eq_true, hskip, hkey]
    rfl

/-- The end of an object is found, with blanks in front of it. -/
lemma nextKey_end (first : Bool) {blanks : Bytes} (hblanks : ∀ b ∈ blanks, isBlankByte b)
    (rest : Bytes) :
    nextKey first (blanks ++ closeObject :: rest) = .ok (none, closeObject :: rest) := by
  unfold nextKey
  rw [skipBlank_append hblanks, skipBlank_cons (by decide)]
  simp only [if_true]

/-- The members after the first are read into the draft. -/
lemma Fills.readMembers_eq {draft full : δ} {members : Members}
    (h : Fills record layout draft members full) (level : ℕ) {rounds blanks : Bytes}
    (hrounds : members.length < rounds.length) (hblanks : ∀ b ∈ blanks, isBlankByte b)
    (rest : Bytes) :
    record.readMembers rounds false draft (Utf8.encode ((members.map layout.member).flatMap
      fun e => ',' :: (layout.newline level ++ e)) ++ (blanks ++ closeObject :: rest)) =
        .ok (full, closeObject :: rest) := by
  have hending : Delimited (blanks ++ closeObject :: rest) :=
    (delimited_of_head (.inr (.inr (.inr rfl))) rest).append hblanks
  induction h generalizing rounds with
  | nil =>
    obtain ⟨round, rounds, rfl⟩ := List.exists_cons_of_length_pos (Nat.zero_lt_of_lt hrounds)
    rw [List.map_nil, List.flatMap_nil, Utf8.encode_nil, List.nil_append, Record.readMembers,
      nextKey_end false hblanks]
  | @cons draft filled full member members hfirst hrest ih =>
    obtain ⟨round, rounds, rfl⟩ := List.exists_cons_of_length_pos (Nat.zero_lt_of_lt hrounds)
    have hmore := ih (Nat.lt_of_succ_lt_succ hrounds)
    have hkey := (nextKey_member layout member (isBlankByte_newline layout level)
      (Utf8.encode ((members.map layout.member).flatMap
        fun e => ',' :: (layout.newline level ++ e)) ++ (blanks ++ closeObject :: rest))).2
    rw [List.map_cons, List.flatMap_cons, encode_entry, List.cons_append, List.append_assoc,
      List.append_assoc, Record.readMembers, hkey]
    simp only [hfirst (delimited_entries layout level _ hending)]
    exact hmore

/-- **Objects read back.** The text of an object is read as the value of the draft that its members
fill. -/
theorem reads_object {members : Members} {full : δ} {value : α}
    (h : Fills record layout record.blank members full) (hfinish : record.finish full = .ok value)
    (level : ℕ) : Reads record.reader (layout.object level members) value := by
  have hopen : openObject ≠ openList := by decide
  have hclose : ∀ rest, conclude endObject (record.complete (.ok (full, closeObject :: rest))) =
      .ok (value, rest) := by
    intro rest
    rw [Record.complete, hfinish]
    simp only [conclude, endObject, skipBlank_cons (show isBlankByte closeObject = false by decide),
      if_true]
  -- the object from its opening on, and the outcome of its members
  have hreader : ∀ body rest : Bytes,
      record.readMembers (openObject :: body) true record.blank body =
        .ok (full, closeObject :: rest) →
      record.reader (openObject :: body) = .ok (value, rest) := by
    intro body rest hbody
    rw [Record.reader, skipBlank_cons (by decide)]
    simp only [hopen, if_false, if_true, hbody]
    exact hclose rest
  have hskips : ∀ s, record.reader (skipBlank s) = record.reader s := by
    intro s
    unfold Record.reader
    rw [skipBlank_skipBlank]
  cases h with
  | nil =>
    have hobject : Utf8.encode (layout.object level []) = [openObject, closeObject] := by
      unfold Layout.object Layout.bracketed
      rfl
    refine ⟨hskips, ⟨_, _, hobject, by decide, by decide, by decide⟩, ?_⟩
    intro rest _
    rw [hobject]
    refine hreader (closeObject :: rest) rest ?_
    have hend : nextKey true (closeObject :: rest) = .ok (none, closeObject :: rest) :=
      nextKey_end true (List.forall_mem_nil _) rest
    rw [Record.readMembers, hend]
  | @cons _ filled _ member members hfirst hmembers =>
    have hobject : Utf8.encode (layout.object level (member :: members)) =
        openObject :: (Utf8.encode (layout.newline (level + 1)) ++
          (Utf8.encode (layout.member member) ++
            (Utf8.encode ((members.map layout.member).flatMap
              fun e => ',' :: (layout.newline (level + 1) ++ e)) ++
              (Utf8.encode (layout.newline level) ++ [closeObject])))) :=
      encode_bracketed layout level '\x7b' '\x7d' (layout.member member) (members.map layout.member)
    refine ⟨hskips, ⟨_, _, hobject, by decide, by decide, by decide⟩, ?_⟩
    intro rest _
    rw [hobject, List.cons_append]
    refine hreader _ rest ?_
    have hending : Delimited (Utf8.encode (layout.newline level) ++ closeObject :: rest) :=
      (delimited_of_head (.inr (.inr (.inr rfl))) rest).append (isBlankByte_newline layout level)
    have hkey := (nextKey_member layout member (isBlankByte_newline layout (level + 1))
      (Utf8.encode ((members.map layout.member).flatMap
        fun e => ',' :: (layout.newline (level + 1) ++ e)) ++
          (Utf8.encode (layout.newline level) ++ closeObject :: rest))).1
    simp only [List.append_assoc, List.singleton_append]
    rw [Record.readMembers, hkey]
    simp only [hfirst (delimited_entries layout (level + 1) _ hending)]
    refine hmembers.readMembers_eq (level + 1) ?_ (isBlankByte_newline layout level) rest
    have hlength := length_le_length_encode_entries layout (level + 1) (members.map layout.member)
    simp only [List.length_append, List.length_map, List.length_cons] at hlength ⊢
    omega

/-- A member for a field of its name is taken in, unless the draft has the field. -/
lemma takes_of_field {draft filled : δ} {member : String × Scalar} {field : Field δ}
    (hfield : record.fields.find? (fun field => field.name.toList = member.1.toList) = some field)
    (hset : field.isSet draft = false) (hread : Reads (field.read draft) member.2.chars filled) :
    Takes record layout draft member filled := by
  intro rest hrest
  obtain ⟨blanks, hcolon, hblanks⟩ := exists_encode_colon layout
  have hbytes : Utf8.encode (layout.colon ++ member.2.chars) ++ rest =
      colon :: (blanks ++ (Utf8.encode member.2.chars ++ rest)) := by
    rw [Utf8.encode_append, hcolon, List.cons_append, List.cons_append, List.append_assoc]
  have hvalue := hread.reads_after hblanks hrest
  have hcolonRead : readColon (colon :: (blanks ++ (Utf8.encode member.2.chars ++ rest))) =
      .ok (blanks ++ (Utf8.encode member.2.chars ++ rest)) := by
    rw [readColon, skipBlank_cons (by decide)]
    simp only [if_true]
  unfold Record.readMember
  rw [hfield, hbytes]
  simp only [hset, Bool.false_eq_true, if_false, hcolonRead, hvalue]

end Objects

/-! ### Lists -/

section Lists

variable {α : Type} {reader : Reader α}

/-- The end of a list is found, with blanks in front of it. -/
lemma nextElement_end (first : Bool) {blanks : Bytes} (hblanks : ∀ b ∈ blanks, isBlankByte b)
    (rest : Bytes) :
    nextElement first (blanks ++ closeList :: rest) = .ok (.stop (closeList :: rest)) := by
  unfold nextElement
  rw [skipBlank_append hblanks, skipBlank_cons (by decide)]
  simp only [if_true]

/-- The next element is found, wherever it stands. -/
lemma nextElement_more {text : List Char} {value : α} (h : Reads reader text value) {blanks : Bytes}
    (hblanks : ∀ b ∈ blanks, isBlankByte b) (rest : Bytes) :
    nextElement true (blanks ++ (Utf8.encode text ++ rest)) =
        .ok (.more (Utf8.encode text ++ rest)) ∧
      nextElement false (comma :: (blanks ++ (Utf8.encode text ++ rest))) =
        .ok (.more (Utf8.encode text ++ rest)) := by
  obtain ⟨b, bytes, htext, hblank, -, hb⟩ := h.starts
  have hskip : skipBlank (blanks ++ (Utf8.encode text ++ rest)) = b :: (bytes ++ rest) := by
    rw [skipBlank_append hblanks, htext, List.cons_append, skipBlank_cons hblank]
  have hcomma : comma ≠ closeList := by decide
  refine ⟨?_, ?_⟩
  · unfold nextElement
    rw [hskip, htext]
    simp only [hb, if_false, if_true, List.cons_append]
  · unfold nextElement
    rw [skipBlank_cons (by decide)]
    simp only [hcomma, if_false, if_true, Bool.false_eq_true, hskip, hb]
    rw [htext, List.cons_append]

/-- The elements after the first are read, and the end of the list. -/
lemma elements_eq {texts : List (List Char)} {values : List α}
    (h : List.Forall₂ (Reads reader) texts values) (layout : Layout) (level : ℕ)
    {rounds blanks : Bytes} (hrounds : texts.length < rounds.length)
    (hblanks : ∀ b ∈ blanks, isBlankByte b) (rest : Bytes) :
    elements reader rounds false (Utf8.encode (texts.flatMap
      fun e => ',' :: (layout.newline level ++ e)) ++ (blanks ++ closeList :: rest)) =
        .ok (values, rest) := by
  have hending : Delimited (blanks ++ closeList :: rest) :=
    (delimited_of_head (.inr (.inr (.inl rfl))) rest).append hblanks
  induction h generalizing rounds with
  | nil =>
    obtain ⟨round, rounds, rfl⟩ := List.exists_cons_of_length_pos (Nat.zero_lt_of_lt hrounds)
    rw [List.flatMap_nil, Utf8.encode_nil, List.nil_append, elements, nextElement_end false hblanks]
    rfl
  | @cons text value texts values hfirst _ ih =>
    obtain ⟨round, rounds, rfl⟩ := List.exists_cons_of_length_pos (Nat.zero_lt_of_lt hrounds)
    have hmore := ih (Nat.lt_of_succ_lt_succ hrounds)
    have hnext := (nextElement_more hfirst (isBlankByte_newline layout level)
      (Utf8.encode (texts.flatMap fun e => ',' :: (layout.newline level ++ e)) ++
        (blanks ++ closeList :: rest))).2
    rw [List.flatMap_cons, encode_entry, List.cons_append, List.append_assoc, List.append_assoc,
      elements, hnext]
    simp only [hfirst.reads (delimited_entries layout level _ hending), hmore]
    rfl

/-- **Lists read back.** Texts that are read as values are read as the list of the values when they
stand in brackets. -/
theorem reads_bracketed {texts : List (List Char)} {values : List α}
    (h : List.Forall₂ (Reads reader) texts values) (layout : Layout) (level : ℕ) :
    Reads reader.list (layout.bracketed level '[' ']' texts) values := by
  have hskips : ∀ s, reader.list (skipBlank s) = reader.list s := by
    intro s
    unfold Reader.list
    rw [skipBlank_skipBlank]
  cases h with
  | nil =>
    have hbytes : Utf8.encode (layout.bracketed level '[' ']' []) = [openList, closeList] := rfl
    refine ⟨hskips, ⟨_, _, hbytes, by decide, by decide, by decide⟩, ?_⟩
    intro rest _
    have hend : nextElement true (closeList :: rest) = .ok (.stop (closeList :: rest)) :=
      nextElement_end true (List.forall_mem_nil _) rest
    rw [hbytes, List.cons_append, Reader.list, skipBlank_cons (by decide)]
    simp only [if_true, List.singleton_append, elements, hend]
    rfl
  | @cons text value texts values hfirst hmore =>
    have hbytes : Utf8.encode (layout.bracketed level '[' ']' (text :: texts)) =
        openList :: (Utf8.encode (layout.newline (level + 1)) ++ (Utf8.encode text ++
          (Utf8.encode (texts.flatMap fun e => ',' :: (layout.newline (level + 1) ++ e)) ++
            (Utf8.encode (layout.newline level) ++ [closeList])))) :=
      encode_bracketed layout level '[' ']' text texts
    refine ⟨hskips, ⟨_, _, hbytes, by decide, by decide, by decide⟩, ?_⟩
    intro rest _
    have hending : Delimited (Utf8.encode (layout.newline level) ++ closeList :: rest) :=
      (delimited_of_head (.inr (.inr (.inl rfl))) rest).append (isBlankByte_newline layout level)
    have hnext := (nextElement_more hfirst (isBlankByte_newline layout (level + 1))
      (Utf8.encode (texts.flatMap fun e => ',' :: (layout.newline (level + 1) ++ e)) ++
        (Utf8.encode (layout.newline level) ++ closeList :: rest))).1
    have hrounds : texts.length < (Utf8.encode (layout.newline (level + 1)) ++
        (Utf8.encode text ++
          (Utf8.encode (texts.flatMap fun e => ',' :: (layout.newline (level + 1) ++ e)) ++
            (Utf8.encode (layout.newline level) ++ closeList :: rest)))).length := by
      have hlength := length_le_length_encode_entries layout (level + 1) texts
      simp only [List.length_append, List.length_cons] at hlength ⊢
      omega
    have hothers := elements_eq hmore layout (level + 1) hrounds
      (isBlankByte_newline layout level) rest
    rw [hbytes, List.cons_append, Reader.list, skipBlank_cons (by decide)]
    simp only [if_true, List.append_assoc, List.singleton_append]
    rw [elements, hnext]
    simp only [hfirst.reads (delimited_entries layout (level + 1) _ hending), hothers]
    rfl

end Lists

end Json

end Retrace
