import Retrace.Json.Printer
import Retrace.Json.Record
/-!
# Stack frames

A stack frame is a place in a generated file; a traced frame is what became of it: the place in a
source, or the reason why it is not known.  Both have a form in JSON.
-/

namespace Retrace

/-- A place in a generated file, the line from one and the column from zero. -/
structure StackFrame where
  fileName : String
  lineNumber : UInt32
  columnNumber : UInt32
deriving Repr, DecidableEq

/-- What became of a stack frame.  Either it has an error and stands where the stack frame stood, or
it stands in a source. -/
structure TracedFrame where
  fileName : Option String
  lineNumber : Option UInt32
  columnNumber : Option UInt32
  functionName : Option String
  /-- The line of the source with its end, and the blocks of lines around it. -/
  lineContent : Option String
  linesBefore : Option String
  linesAfter : Option String
  error : Option String
deriving Repr, DecidableEq

namespace TracedFrame

/-- The frame of which nothing is known. -/
def blank : TracedFrame := ⟨none, none, none, none, none, none, none, none⟩

/-- The stack frame as it stands, with the reason why it could not be traced. -/
def failed (frame : StackFrame) (reason : String) : TracedFrame :=
  { blank with
    fileName := some frame.fileName
    lineNumber := some frame.lineNumber
    columnNumber := some frame.columnNumber
    error := some reason }

/-- Whether the frame could not be traced. -/
def isError (frame : TracedFrame) : Bool :=
  frame.error.isSome

end TracedFrame

/-! ### Writing -/

/-- The members of a stack frame in JSON. -/
def StackFrame.members (frame : StackFrame) : Json.Members :=
  [("fileName", .text frame.fileName), ("lineNumber", .number frame.lineNumber.toNat),
    ("columnNumber", .number frame.columnNumber.toNat)]

/-- The members of a traced frame in JSON; what is missing has none. -/
def TracedFrame.members (frame : TracedFrame) : Json.Members :=
  Json.textMember "fileName" frame.fileName ++
  Json.numberMember "lineNumber" (frame.lineNumber.map UInt32.toNat) ++
  Json.numberMember "columnNumber" (frame.columnNumber.map UInt32.toNat) ++
  Json.textMember "functionName" frame.functionName ++
  Json.textMember "lineContent" frame.lineContent ++
  Json.textMember "linesBefore" frame.linesBefore ++
  Json.textMember "linesAfter" frame.linesAfter ++
  Json.textMember "error" frame.error

/-! ### Reading -/

/-- Reads a number of a frame. -/
def Json.Reader.number32 : Json.Reader UInt32 :=
  Json.Reader.unsigned32.map UInt32.ofNat

namespace StackFrame

/-- A stack frame while it is read. -/
structure Draft where
  fileName : Option String
  lineNumber : Option UInt32
  columnNumber : Option UInt32

/-- The stack frame of a draft, which has to be complete. -/
def Draft.finish (d : Draft) : Except String StackFrame := do
  let fileName ← Json.required "fileName" d.fileName
  let lineNumber ← Json.required "lineNumber" d.lineNumber
  let columnNumber ← Json.required "columnNumber" d.columnNumber
  return ⟨fileName, lineNumber, columnNumber⟩

/-- How a stack frame is written in JSON. -/
def format : Json.Record Draft StackFrame where
  name := "StackFrameInput"
  blank := ⟨none, none, none⟩
  finish := Draft.finish
  fields :=
    [ .of "fileName" .text (·.fileName.isSome) (fun d v => { d with fileName := some v }) false,
      .of "lineNumber" .number32 (·.lineNumber.isSome)
        (fun d v => { d with lineNumber := some v }) false,
      .of "columnNumber" .number32 (·.columnNumber.isSome)
        (fun d v => { d with columnNumber := some v }) false ]

/-- The stack trace that a text writes; `null` stands for no trace. -/
def readTrace (text : Bytes) : Except Json.Error (Option (List StackFrame)) :=
  Json.read (.optional (.list format.reader)) text

end StackFrame

namespace TracedFrame

/-- A traced frame while it is read; a member may be there with the value `null`. -/
structure Draft where
  fileName : Option (Option String)
  lineNumber : Option (Option UInt32)
  columnNumber : Option (Option UInt32)
  functionName : Option (Option String)
  lineContent : Option (Option String)
  linesBefore : Option (Option String)
  linesAfter : Option (Option String)
  error : Option (Option String)

/-- The traced frame of a draft. -/
def Draft.finish (d : Draft) : TracedFrame where
  fileName := d.fileName.join
  lineNumber := d.lineNumber.join
  columnNumber := d.columnNumber.join
  functionName := d.functionName.join
  lineContent := d.lineContent.join
  linesBefore := d.linesBefore.join
  linesAfter := d.linesAfter.join
  error := d.error.join

/-- How a traced frame is written in JSON. -/
def format : Json.Record Draft TracedFrame where
  name := "EnhancedFrame"
  blank := ⟨none, none, none, none, none, none, none, none⟩
  finish d := .ok d.finish
  fields :=
    [ .of "fileName" (.optional .text) (·.fileName.isSome)
        (fun d v => { d with fileName := some v }) true,
      .of "lineNumber" (.optional .number32) (·.lineNumber.isSome)
        (fun d v => { d with lineNumber := some v }) true,
      .of "columnNumber" (.optional .number32) (·.columnNumber.isSome)
        (fun d v => { d with columnNumber := some v }) true,
      .of "functionName" (.optional .text) (·.functionName.isSome)
        (fun d v => { d with functionName := some v }) true,
      .of "lineContent" (.optional .text) (·.lineContent.isSome)
        (fun d v => { d with lineContent := some v }) true,
      .of "linesBefore" (.optional .text) (·.linesBefore.isSome)
        (fun d v => { d with linesBefore := some v }) true,
      .of "linesAfter" (.optional .text) (·.linesAfter.isSome)
        (fun d v => { d with linesAfter := some v }) true,
      .of "error" (.optional .text) (·.error.isSome)
        (fun d v => { d with error := some v }) true ]

/-- The traced frame that a text writes. -/
def read (text : Bytes) : Except Json.Error TracedFrame :=
  Json.read format.reader text

end TracedFrame

end Retrace
