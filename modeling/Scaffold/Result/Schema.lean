import Scaffold.Json.Parser
import Scaffold.Result.Basic
import Scaffold.Schema.Coerce

/-!
# Reading results

A result is read from a map of its fields; fields that it does not have are passed over.  All that
is wrong with the fields is named, in the order of the fields.
-/

namespace Scaffold

open Json Schema

/-- What is wrong with a value that should be a record. -/
def recordDefect (source : Source) (kind : String) : Defect :=
  if source = .json then .notObject else .notRecord kind

/-- Reads an error. -/
def ErrorInfo.read (source : Source) : Value → Read ErrorInfo
  | .map entries =>
    let code := readField entries "code" required fun v => whole (readText v)
    let message := readField entries "message" required fun v => whole (readText v)
    let detail := readField entries "detail" (.ok []) fun v => whole (readMap source v)
    match code, message, detail with
    | .ok code, .ok message, .ok detail => .ok ⟨code, message, detail⟩
    | _, _, _ => .error (issuesOf code ++ issuesOf message ++ issuesOf detail)
  | _ => .error [⟨recordDefect source "ServiceError", []⟩]

/-- Reads a value that may be null. -/
def readNullable {α : Type} (read : Value → Read α) : Value → Read (Option α)
  | .null => .ok none
  | v => (read v).map some

/-- Reads a result. -/
def Result.read (source : Source) : Value → Read Result
  | .map entries =>
    let ok := readField entries "ok" required fun v => whole (readBool v)
    let op := readField entries "op" required fun v => whole (readText v)
    let data := readField entries "data" (.ok []) fun v => whole (readMap source v)
    let warnings := readField entries "warnings" (.ok []) (readTexts source)
    let error := readField entries "error" (.ok none) (readNullable (ErrorInfo.read source))
    let metaData :=
      readField entries "meta" (.ok none) (readNullable fun v => whole (readMap source v))
    match ok, op, data, warnings, error, metaData with
    | .ok ok, .ok op, .ok data, .ok warnings, .ok error, .ok metaData =>
      .ok ⟨ok, op, data, warnings, error, metaData⟩
    | _, _, _, _, _, _ =>
      .error (issuesOf ok ++ issuesOf op ++ issuesOf data ++ issuesOf warnings ++
        issuesOf error ++ issuesOf metaData)
  | _ => .error [⟨recordDefect source "ServiceResult", []⟩]

/-- Reads a failure from its operation, code, message and details. -/
def Result.readFailure (entries : Entries) : Read Result := do
  let error ← ErrorInfo.read .memory (.map entries)
  let op ← readField entries "op" required fun v => whole (readText v)
  return ⟨false, op, [], [], some error, none⟩

/-- Reads a result from JSON text. -/
def Result.parse (text : String) : Read Result :=
  match Json.parse text.toList with
  | .error fault => .error [⟨.invalidJson (fault.message text.toList), []⟩]
  | .ok value => Result.read .json value

end Scaffold
