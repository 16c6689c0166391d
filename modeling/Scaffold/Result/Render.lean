import Scaffold.Console.Screen
import Scaffold.Json.Shown
import Scaffold.Result.Basic

/-!
# Results for people

A result is shown as a status line followed by its fields, or, quietly, as the one value that a
script would want.  Which fields are shown, and how, depends on the operation.  In the verbose form
the meta data and the details of an error follow; their lines are read as markup.
-/

namespace Scaffold

open Json Console

/-- Why a result cannot be shown: its parts do not have the shape that the operation gives
    them, or they hold broken markup. -/
inductive RenderFault where
  | markup (fault : MarkupFault)
  | noAttribute (kind member : String)
  | notComparable (kind : String)
  | notIterable (kind : String)
  | noLength (kind : String)
  | notSearchable (kind : String)
  | notIndexable (kind : String)
  | notJoinable
  | itemNotText (index : Nat) (kind : String)
  | notShowable (kind : String)
  | lengthTooGreat
  deriving DecidableEq, Repr

/-- The text of a fault, unless it is one that is told without words. -/
def RenderFault.message? : RenderFault → Option String
  | markup fault => fault.message?
  | noAttribute kind member =>
    some ("'" ++ kind ++ "' object has no attribute '" ++ member ++ "'")
  | notComparable kind =>
    some ("'>' not supported between instances of '" ++ kind ++ "' and 'int'")
  | notIterable kind => some ("'" ++ kind ++ "' object is not iterable")
  | noLength kind => some ("object of type '" ++ kind ++ "' has no len()")
  | notSearchable kind => some ("argument of type '" ++ kind ++ "' is not iterable")
  | notIndexable "list" => some "list indices must be integers or slices, not str"
  | notIndexable _ => some "string indices must be integers, not 'str'"
  | notJoinable => some "can only join an iterable"
  | itemNotText index kind =>
    some ("sequence item " ++ toString index ++ ": expected str instance, " ++ kind ++ " found")
  | notShowable kind =>
    some ("unable to render " ++ kind ++ "; a string or other renderable object is required")
  | lengthTooGreat => some "int too large to convert to float"

namespace Result

/-- Printed text, or why it cannot be printed. -/
abbrev Printed := Except RenderFault (List Char)

/-- A literal line. -/
def line (text : String) : List Char := printText defaultWidth text.toList

/-- A marked-up line. -/
def markupLine (text : String) : Printed :=
  (printMarkup defaultWidth text.toList).mapError .markup

/-- The message of a failed result. -/
def failureText (r : Result) : String := (r.error.map ErrorInfo.message).getD "Unknown error"

/-- The items of a value that can be gone through. -/
def itemsOf : Value → Option (List Value)
  | .list items => some items
  | .str s => some (s.toList.map fun c => .str (String.ofList [c]))
  | .map entries => some (entries.map fun e => .str e.1)
  | _ => none

/-- The texts of a value joined by line ends. -/
def joinedLines (v : Value) : Except RenderFault String :=
  match itemsOf v with
  | none => .error .notJoinable
  | some items => do
    let texts ← items.zipIdx.mapM fun (item, index) =>
      match item with
      | .str s => .ok s
      | other => .error (RenderFault.itemNotText index other.kindName)
    return "\n".intercalate texts

/-- The value of a field, or a text where it is missing. -/
def fieldText (data : Entries) (key : String) : String := ((data.get? key).getD (.str "")).shown

/-- A result in one line: the value that a script would want, or the outcome. -/
def renderQuiet (r : Result) : Except RenderFault String :=
  if !r.ok then .ok ("ERROR: " ++ r.op ++ " — " ++ r.failureText)
  else
    match r.op with
    | "completion_entries" => joinedLines ((r.data.get? "items").getD (.list []))
    | "initial_path" => .ok (fieldText r.data "initial_path")
    | "create_file" => .ok (fieldText r.data "path")
    | op => .ok ("OK: " ++ op)

/-- The status line of a success. -/
def statusLine (r : Result) : List Char := line ("OK  " ++ r.op)

/-- A field with its value. -/
def field (key : String) (value : Value) : List Char := line ("  " ++ key ++ ": " ++ value.shown)

/-- A field, if it is among the data. -/
def fieldIfPresent (data : Entries) (key : String) : List Char :=
  match data.get? key with
  | some value => field key value
  | none => []

/-- The fields of the variables of a template. -/
def variableFields (v : Value) : Printed :=
  let names := ["package_name", "type_name"]
  match v with
  | .map entries => .ok (names.flatMap (fieldIfPresent entries))
  | .list items =>
    if names.any fun n => items.any fun
        | .str s => s == n
        | _ => false
    then .error (.notIndexable "list") else .ok []
  | .str s =>
    if names.any fun n => (s.splitOn n).length ≠ 1 then .error (.notIndexable "str") else .ok []
  | other => .error (.notSearchable other.kindName)

/-- The number that a length of time is; an integer has to be within the range of numbers. -/
def durationOf : Value → Except RenderFault Binary64
  | .float x => .ok x
  | .int n =>
    match Binary64.ofInt n with
    | .infinite _ => .error .lengthTooGreat
    | x => .ok x
  | .bool b => .ok (.ofInt (if b then 1 else 0))
  | other => .error (.notComparable other.kindName)

/-- Whether a number is above a bound. -/
def isAbove (x : Binary64) (bound : Nat) : Bool :=
  match x.sub (.ofInt bound) with
  | .finite false m _ => m != 0
  | .infinite false => true
  | _ => false

/-- The style of a length of time. -/
def durationStyle (x : Binary64) : String :=
  if isAbove x 1000 then "bold red" else if isAbove x 100 then "yellow" else "dim"

/-- The notes of a span behind its name. -/
def notesText (v : Value) : Except RenderFault String :=
  if !v.isPresent then .ok ""
  else
    match v with
    | .map entries =>
      .ok ("  (" ++ ", ".intercalate (entries.map fun (k, v) => k ++ "=" ++ v.shown) ++ ")")
    | other => .error (.noAttribute other.kindName "items")

/-- The text with spaces before it up to eight characters. -/
def padLeft8 (s : String) : String := String.ofList (List.replicate (8 - s.length) ' ') ++ s

/-- The line of one span. -/
def spanLine (indent : Nat) (entries : Entries) : Printed := do
  let name := ((entries.get? "name").getD (.str "?")).shown
  let duration ← durationOf ((entries.get? "duration_ms").getD (.float (.zero false)))
  let style := durationStyle duration
  let notes ← notesText ((entries.get? "annotations").getD .null)
  markupLine (String.ofList (List.replicate indent ' ') ++ "[" ++ style ++ "]" ++
    padLeft8 (twoPlaces duration) ++ "ms[/" ++ style ++ "]  " ++ name ++ notes)

/-- What happens where a span should be and a text is. -/
def noSpans (names : List String) : Printed :=
  if names.isEmpty then .ok [] else .error (.noAttribute "str" "get")

mutual

/-- The lines of a span and, further in, of the spans inside it. -/
def spanTree (indent : Nat) : Value → Printed
  | .map entries => do
    let first ← spanLine indent entries
    let rest ← childTrees (indent + 4) entries
    return first ++ rest
  | other => .error (.noAttribute other.kindName "get")

/-- The lines of the spans inside a span with the given fields. -/
def childTrees (indent : Nat) : List (String × Value) → Printed
  | [] => .ok []
  | (key, value) :: rest =>
    if key = "children" then
      match value with
      | .list spans => spanTrees indent spans
      | .str s => noSpans (s.toList.map fun c => String.ofList [c])
      | .map entries => noSpans (entries.map (·.1))
      | other => .error (.notIterable other.kindName)
    else childTrees indent rest

/-- The lines of several spans. -/
def spanTrees (indent : Nat) : List Value → Printed
  | [] => .ok []
  | span :: rest => do
    let first ← spanTree indent span
    let more ← spanTrees indent rest
    return first ++ more

end

/-- All printed parts, or the first fault. -/
def concat (parts : List Printed) : Printed :=
  parts.foldlM (fun printed part => part.map (printed ++ ·)) []

/-- The meta data of a result. -/
def metaLines (r : Result) : Printed :=
  match r.metaData with
  | none => .ok []
  | some [] => .ok []
  | some entries =>
    concat (.ok ('\n' :: line "  meta:") :: entries.map fun (k, v) =>
      if k = "telemetry" then spanTree 4 v else markupLine ("    " ++ k ++ ": " ++ v.shown))

/-- A failed result. -/
def errorLines (r : Result) (verbose : Bool) : Printed :=
  let first := line ("ERROR  " ++ r.op ++ " — " ++ r.failureText)
  match r.error with
  | some e =>
    if verbose && !e.detail.isEmpty then
      concat (.ok (first ++ line "  detail:") :: e.detail.map fun (k, v) =>
        markupLine ("    " ++ k ++ ": " ++ v.shown))
    else .ok first
  | none => .ok first

/-- The text of a cell. -/
def cellOf : Value → Except RenderFault (List Glyph)
  | .str s => (readMarkup s.toList).mapError .markup
  | .null => .ok []
  | other => .error (.notShowable other.kindName)

/-- The packages found for a prefix. -/
def completionLines (r : Result) : Printed := do
  let items := (r.data.get? "items").getD (.list [])
  match itemsOf items with
  | none => .error (.noLength items.kindName)
  | some cells =>
    let count := (r.data.get? "count").getD (.int cells.length)
    let head := r.statusLine ++ field "count" count
    if cells.isEmpty then return head
    else
      let _ ← cells.mapM fun
        | .str _ => .ok ()
        | .null => .ok ()
        | other => .error (RenderFault.notShowable other.kindName)
      let texts ← cells.mapM cellOf
      return head ++ joinLines (tableLines (glyphs false "Package".toList) texts)

/-- A field of any operation; lists and maps are shown as JSON. -/
def genericField (key : String) (value : Value) : List Char :=
  match value with
  | .list _ => line ("  " ++ key ++ ": " ++ Layout.dense.compact value)
  | .map _ => line ("  " ++ key ++ ": " ++ Layout.dense.compact value)
  | _ => field key value

/-- The lines of a success without its meta data. -/
def successLines (r : Result) (verbose : Bool) : Printed :=
  match r.op with
  | "validate_name" => validation
  | "template_variables" => validation
  | "create_file" =>
    let fields := ["name", "kind", "path"].flatMap (fieldIfPresent r.data)
    concat [.ok (r.statusLine ++ fields), if verbose then bindings else .ok []]
  | "initial_path" =>
    let value := (r.data.get? "initial_path").getD .null
    .ok (r.statusLine ++ field "resource" ((r.data.get? "resource").getD (.str "")) ++
      field "initial_path" (if value.isPresent then value else .str "\"\""))
  | "completion_entries" => r.completionLines
  | _ => .ok (r.statusLine ++ r.data.flatMap fun (k, v) => genericField k v)
where
  bindings : Printed := variableFields ((r.data.get? "variables").getD (.map []))
  validation : Printed :=
    concat [.ok (r.statusLine ++ field "name" ((r.data.get? "name").getD (.str "")) ++
      fieldIfPresent r.data "folder"), bindings]

/-- The text without the line ends at its end. -/
def dropFinalLineEnds (cs : List Char) : List Char :=
  (cs.reverse.dropWhile (· == '\n')).reverse

/-- A result for people. -/
def render (r : Result) (verbose : Bool) : Except RenderFault String :=
  let printed :=
    if r.ok then concat [r.successLines verbose, if verbose then r.metaLines else .ok []]
    else r.errorLines verbose
  printed.map fun cs => String.ofList (dropFinalLineEnds cs)

end Result

/-- How results are shown. -/
structure OutputMode where
  json : Bool
  quiet : Bool
  verbose : Bool
  deriving DecidableEq, Repr

/-- The text of a result: JSON wins over the quiet form, which wins over the verbose one. -/
def OutputMode.format (mode : OutputMode) (r : Result) : Except RenderFault String :=
  if mode.json then .ok r.indentedText
  else if mode.quiet then r.renderQuiet
  else r.render mode.verbose

end Scaffold
