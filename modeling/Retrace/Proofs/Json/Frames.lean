import Mathlib
import Retrace.Frame
import Retrace.Proofs.Json.Record
import Retrace.Text.Search

/-!
# Frames read back

Stack frames and traced frames are read from their texts as they were written (`read_written`). What
a traced frame lacks has no member, so that the draft that its members fill lacks the same; a member
that is there fills its own field and no other (`TracedFrame.fills_members`).
-/

namespace Retrace

namespace Json

/-- A number of a frame as it is written. -/
def Scalar.number32 (n : UInt32) : Scalar :=
  .number n.toNat

/-- A number of a frame. -/
lemma reads_number32 (n : UInt32) : Reads Reader.number32 (Scalar.number32 n).chars n := by
  have hbound : n.toNat ≤ Integer.maxUnsigned32 := by
    have hlt := n.toNat_lt
    unfold Integer.maxUnsigned32
    omega
  have hread := (reads_natural hbound (by decide) "u32").map UInt32.ofNat
  rwa [UInt32.ofNat_toNat] at hread

/-- A member for a field of its name is taken in, unless the draft has the field. -/
lemma takes_of {δ α β : Type} {record : Record δ β} {layout : Layout} {name : String}
    {reader : Reader α} {isSet : δ → Bool} {set : δ → α → δ} {mayLack : Bool} {draft filled : δ}
    (hfield : record.fields.find? (fun field => field.name.toList = name.toList) =
      some (.of name reader isSet set mayLack))
    (hset : isSet draft = false) {scalar : Scalar} {a : α} (hread : Reads reader scalar.chars a)
    (hfilled : set draft a = filled) : Takes record layout draft (name, scalar) filled := by
  have hfieldRead := hread.map (set draft)
  rw [hfilled] at hfieldRead
  exact takes_of_field hfield hset hfieldRead

/-- The members for a value that may be missing. -/
def optionalMembers {α : Type} (name : String) (scalar : α → Scalar) (value : Option α) : Members :=
  value.toList.map fun a => (name, scalar a)

/-- The member for a text that may be missing. -/
lemma textMember_eq (name : String) (value : Option String) :
    textMember name value = optionalMembers name .text value := by
  cases value <;> rfl

/-- The member for a number that may be missing. -/
lemma numberMember_eq (name : String) (value : Option UInt32) :
    numberMember name (value.map UInt32.toNat) = optionalMembers name .number32 value := by
  cases value <;> rfl

/-- The members for a value that may be missing fill its field with it, if it is there. -/
lemma fills_optionalMembers {δ α β : Type} {record : Record δ β} {layout : Layout} {name : String}
    {reader : Reader α} {scalar : α → Scalar} {isSet : δ → Bool} {set : δ → Option α → δ}
    {mayLack : Bool} {draft : δ} (filled : Option α → δ)
    (hfield : record.fields.find? (fun field => field.name.toList = name.toList) =
      some (.of name reader.optional isSet set mayLack))
    (hreader : ∀ a, Reads reader (scalar a).chars a) (hset : isSet draft = false)
    (hnone : filled none = draft)
    (hsome : ∀ a, filled (some a) = set draft (some a)) (value : Option α) :
    Fills record layout draft (optionalMembers name scalar value) (filled value) := by
  cases value with
  | none =>
    rw [hnone]
    exact .nil draft
  | some a =>
    rw [hsome]
    exact .cons (takes_of hfield hset (hreader a).optional rfl) (.nil _)

/-- Compact entries are joined by commas. -/
lemma entries_compact (level : ℕ) (entries : List (List Char)) :
    Layout.compact.entries level entries = Text.joinWith [','] entries := by
  induction entries with
  | nil => rfl
  | cons entry more ih =>
    cases more with
    | nil => rfl
    | cons next more =>
      rw [Layout.entries, ih]
      · rfl
      · simp

/-- A compact list has its entries between brackets, joined by commas. -/
lemma bracketed_compact (level : ℕ) (opening closing : Char) (entries : List (List Char)) :
    Layout.compact.bracketed level opening closing entries =
      opening :: Text.joinWith [','] entries ++ [closing] := by
  unfold Layout.bracketed
  rw [entries_compact]
  cases entries with
  | nil => rfl
  | cons entry more => simp [Layout.newline]

end Json

open Json

namespace StackFrame

/-- The members of a stack frame fill a draft with it. -/
lemma fills_members (layout : Layout) (frame : StackFrame) :
    Fills format layout format.blank frame.members
      ⟨some frame.fileName, some frame.lineNumber, some frame.columnNumber⟩ := by
  have hfile : Takes format layout format.blank ("fileName", .text frame.fileName)
      ⟨some frame.fileName, none, none⟩ :=
    takes_of rfl rfl (reads_text frame.fileName) rfl
  have hline : Takes format layout ⟨some frame.fileName, none, none⟩
      ("lineNumber", .number32 frame.lineNumber)
      ⟨some frame.fileName, some frame.lineNumber, none⟩ :=
    takes_of rfl rfl (reads_number32 frame.lineNumber) rfl
  have hcolumn : Takes format layout ⟨some frame.fileName, some frame.lineNumber, none⟩
      ("columnNumber", .number32 frame.columnNumber)
      ⟨some frame.fileName, some frame.lineNumber, some frame.columnNumber⟩ :=
    takes_of rfl rfl (reads_number32 frame.columnNumber) rfl
  exact .cons hfile (.cons hline (.cons hcolumn (.nil _)))

/-- The text of a stack frame is read as the stack frame. -/
lemma reads_object (layout : Layout) (level : ℕ) (frame : StackFrame) :
    Reads format.reader (layout.object level frame.members) frame :=
  Json.reads_object (fills_members layout frame) rfl level

end StackFrame

namespace TracedFrame

/-- The draft of a traced frame: what the frame lacks has no member. -/
def draftOf (frame : TracedFrame) : Draft :=
  ⟨frame.fileName.map some, frame.lineNumber.map some, frame.columnNumber.map some,
    frame.functionName.map some, frame.lineContent.map some, frame.linesBefore.map some,
    frame.linesAfter.map some, frame.error.map some⟩

/-- The draft of a traced frame is that frame. -/
lemma finish_draftOf (frame : TracedFrame) : frame.draftOf.finish = frame := by
  have hjoin : ∀ {α : Type} (value : Option α), (value.map some).join = value := by
    intro α value
    cases value <;> rfl
  unfold Draft.finish draftOf
  simp only [hjoin]

/-- The members of a traced frame fill a draft with what the frame has. -/
lemma fills_members (layout : Layout) (frame : TracedFrame) :
    Fills format layout format.blank frame.members frame.draftOf := by
  unfold members
  simp only [textMember_eq, numberMember_eq]
  -- one field after the other, each with those before it filled in
  let one : TracedFrame := { blank with fileName := frame.fileName }
  let two : TracedFrame := { one with lineNumber := frame.lineNumber }
  let three : TracedFrame := { two with columnNumber := frame.columnNumber }
  let four : TracedFrame := { three with functionName := frame.functionName }
  let five : TracedFrame := { four with lineContent := frame.lineContent }
  let six : TracedFrame := { five with linesBefore := frame.linesBefore }
  let seven : TracedFrame := { six with linesAfter := frame.linesAfter }
  have hfile : Fills format layout format.blank
      (optionalMembers "fileName" .text frame.fileName) one.draftOf :=
    fills_optionalMembers (fun v => draftOf { blank with fileName := v }) rfl reads_text rfl rfl
      (fun _ => rfl) frame.fileName
  have hline : Fills format layout one.draftOf
      (optionalMembers "lineNumber" .number32 frame.lineNumber) two.draftOf :=
    fills_optionalMembers (fun v => draftOf { one with lineNumber := v }) rfl reads_number32 rfl rfl
      (fun _ => rfl) frame.lineNumber
  have hcolumn : Fills format layout two.draftOf
      (optionalMembers "columnNumber" .number32 frame.columnNumber) three.draftOf :=
    fills_optionalMembers (fun v => draftOf { two with columnNumber := v }) rfl reads_number32 rfl
      rfl (fun _ => rfl) frame.columnNumber
  have hfunction : Fills format layout three.draftOf
      (optionalMembers "functionName" .text frame.functionName) four.draftOf :=
    fills_optionalMembers (fun v => draftOf { three with functionName := v }) rfl reads_text rfl rfl
      (fun _ => rfl) frame.functionName
  have hcontent : Fills format layout four.draftOf
      (optionalMembers "lineContent" .text frame.lineContent) five.draftOf :=
    fills_optionalMembers (fun v => draftOf { four with lineContent := v }) rfl reads_text rfl rfl
      (fun _ => rfl) frame.lineContent
  have hbefore : Fills format layout five.draftOf
      (optionalMembers "linesBefore" .text frame.linesBefore) six.draftOf :=
    fills_optionalMembers (fun v => draftOf { five with linesBefore := v }) rfl reads_text rfl rfl
      (fun _ => rfl) frame.linesBefore
  have hafter : Fills format layout six.draftOf
      (optionalMembers "linesAfter" .text frame.linesAfter) seven.draftOf :=
    fills_optionalMembers (fun v => draftOf { six with linesAfter := v }) rfl reads_text rfl rfl
      (fun _ => rfl) frame.linesAfter
  have herror : Fills format layout seven.draftOf
      (optionalMembers "error" .text frame.error) frame.draftOf :=
    fills_optionalMembers (fun v => draftOf { seven with error := v }) rfl reads_text rfl rfl
      (fun _ => rfl) frame.error
  exact ((((((hfile.append hline).append hcolumn).append hfunction).append hcontent).append
    hbefore).append hafter).append herror

/-- The text of a traced frame is read as the traced frame. -/
lemma reads_object (layout : Layout) (level : ℕ) (frame : TracedFrame) :
    Reads format.reader (layout.object level frame.members) frame := by
  have hfinish : format.finish frame.draftOf = .ok frame := congrArg Except.ok frame.finish_draftOf
  exact Json.reads_object (fills_members layout frame) hfinish level

end TracedFrame

namespace Json

/-- Texts of records that are read one by one. -/
lemma forall₂_reads {δ α : Type} {record : Record δ α} {layout : Layout} {level : ℕ}
    {members : α → Members} (h : ∀ a, Reads record.reader (layout.object level (members a)) a)
    (values : List α) :
    List.Forall₂ (Reads record.reader) (values.map fun a => layout.object level (members a))
      values := by
  induction values with
  | nil => exact .nil
  | cons a values ih => exact .cons (h a) ih

end Json

/-- A list of stack frames is read back in either layout. -/
lemma StackFrame.readTrace_objects (layout : Layout) (frames : List StackFrame) :
    StackFrame.readTrace (Utf8.encode (layout.objects (frames.map StackFrame.members))) =
      .ok (some frames) := by
  have hframes := forall₂_reads (StackFrame.reads_object layout 1) frames
  have hread := (reads_bracketed hframes layout 0).optional.read_eq
  unfold Layout.objects
  rwa [List.map_map]

/-- A list of traced frames is read back in either layout. -/
lemma TracedFrame.read_objects (layout : Layout) (frames : List TracedFrame) :
    Json.read (.list TracedFrame.format.reader)
      (Utf8.encode (layout.objects (frames.map TracedFrame.members))) = .ok frames := by
  have hframes := forall₂_reads (TracedFrame.reads_object layout 1) frames
  have hread := (reads_bracketed hframes layout 0).read_eq
  unfold Layout.objects
  rwa [List.map_map]

/-- **Frames read back.** A traced frame is read from its text, compact or indented, as it was
written, whichever of its values it lacks and whatever characters are in its texts. And a list of
stack frames is read from the compact texts of the stack frames, joined by commas and in brackets.
-/
theorem read_written :
    (∀ (frame : TracedFrame) (layout : Layout),
      TracedFrame.read (Utf8.encode (layout.object 0 frame.members)) = .ok frame) ∧
    ∀ frames : List StackFrame,
      StackFrame.readTrace (Utf8.encode ('[' :: Text.joinWith [','] (frames.map
        fun frame => Layout.compact.object 0 frame.members) ++ [']'])) = .ok (some frames) := by
  refine ⟨?_, ?_⟩
  · intro frame layout
    exact (TracedFrame.reads_object layout 0 frame).read_eq
  · intro frames
    have hframes := forall₂_reads (StackFrame.reads_object .compact 0) frames
    have hread := (reads_bracketed hframes .compact 0).optional.read_eq
    rwa [bracketed_compact] at hread

end Retrace
