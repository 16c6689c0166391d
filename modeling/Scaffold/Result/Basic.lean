import Scaffold.Json.Printer
import Scaffold.Telemetry.Span

/-!
# Results

Every operation ends in a result: whether it succeeded, its data, warnings, an error if it failed,
and further data about the run.
-/

namespace Scaffold

open Json

/-- Why an operation failed: a code for programs, a message for people, and details. -/
structure ErrorInfo where
  code : String
  message : String
  detail : Entries
  deriving Repr

/-- The result of an operation. -/
structure Result where
  ok : Bool
  op : String
  data : Entries
  warnings : List String
  error : Option ErrorInfo
  metaData : Option Entries
  deriving Repr

namespace Result

/-- A success with data. -/
def success (op : String) (data : Entries) (warnings : List String) : Result :=
  ⟨true, op, data, warnings, none, none⟩

/-- A failure with a code, a message and details. -/
def failure (op code message : String) (detail : Entries) : Result :=
  ⟨false, op, [], [], some ⟨code, message, detail⟩, none⟩

/-- The result with the report on a span among its meta data. -/
def withSpan (r : Result) (span : Telemetry.Span) : Result :=
  { r with metaData := some ((r.metaData.getD []).insert "telemetry" span.report) }

end Result

/-- An error as a map. -/
def ErrorInfo.toJson (e : ErrorInfo) : Value :=
  .map [("code", .str e.code), ("message", .str e.message), ("detail", .map e.detail)]

/-- A result as a map, its fields in their order. -/
def Result.toJson (r : Result) : Value :=
  .map [("ok", .bool r.ok), ("op", .str r.op), ("data", .map r.data),
    ("warnings", .ofStrings r.warnings), ("error", (r.error.map ErrorInfo.toJson).getD .null),
    ("meta", (r.metaData.map Value.map).getD .null)]

/-- A result as JSON on one line. -/
def Result.compactText (r : Result) : String := Layout.record.compact r.toJson

/-- A result as JSON on many lines. -/
def Result.indentedText (r : Result) : String := Layout.indentedRecord.indented 0 r.toJson

end Scaffold
