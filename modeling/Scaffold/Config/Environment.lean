import Scaffold.Json.Parser
import Scaffold.Text.LowerCase

/-!
# Settings in the environment

A setting is named by a variable with a common beginning, letter case aside.  A section as a whole
is given as JSON, and single fields of it by names with a double underscore; these win over the
section as a whole.  Lists are given as JSON.
-/

namespace Scaffold.Config

open Json

/-- The beginning that all variables share, in lower case. -/
def variableStart : String := "scalanew_"

/-- The separator between the names of a section and of its field. -/
def fieldSeparator : String := "__"

/-- A section: its name, the names of its fields, and which of them are lists. -/
structure SectionShape where
  name : String
  fields : List String
  lists : List String
  deriving DecidableEq

/-- The shapes of the sections. -/
def sectionShapes : List SectionShape :=
  [⟨"project", ["name", "natures", "source_dirs", "class_dirs", "classpath"],
      ["natures", "source_dirs", "class_dirs", "classpath"]⟩,
    ⟨"lookup", ["enabled", "timeout", "workers", "index_sources"], []⟩,
    ⟨"templates", ["default"], []⟩]

/-- The names of the flags. -/
def flagNames : List String := ["json_output", "quiet", "verbose", "log_json", "no_lookup"]

/-- The variables with their names in lower case; of two that become the same name the later
    one counts. -/
def normalizeVariables (environment : List (String × String)) : List (String × String) :=
  environment.foldl (fun found pair =>
    let name := String.ofList (Text.lower pair.1.toList)
    if found.any (·.1 == name) then
      found.map fun old => if old.1 = name then (name, pair.2) else old
    else found ++ [(name, pair.2)]) []

/-- The value behind a path of keys, entered where nothing that is not a map is in the way. -/
def enterPath (value : Value) : (path : List String) → (last : String) → Entries → Entries
  | [], last, entries => entries.insert last value
  | key :: path, last, entries =>
    match entries.get? key with
    | none => entries.insert key (.map (enterPath value path last []))
    | some (.map inner) => entries.insert key (.map (enterPath value path last inner))
    | some _ => entries

/-- The value that the text of a field stands for: lists are JSON, everything else is text.
    None where the JSON is broken. -/
def fieldValue? (shape : SectionShape) (path : List String) (text : String) : Option Value :=
  match path with
  | [field] =>
    if shape.lists.contains field && text ≠ "" then
      (Json.parse text.toList).toOption
    else some (.str text)
  | _ => some (.str text)

/-- The keys that a text names, with double underscores between them. -/
def keysIn : List Char → List (List Char)
  | '_' :: '_' :: cs => [] :: keysIn cs
  | c :: cs =>
    match keysIn cs with
    | key :: keys => (c :: key) :: keys
    | [] => [[c]]
  | [] => [[]]

/-- The path of keys that a variable names within a section, if it is one of the section's. -/
def pathIn? (shape : SectionShape) (variable_ : String) : Option (List String) :=
  ((variableStart ++ shape.name ++ fieldSeparator).toList.isPrefixOf? variable_.toList).map
    fun rest => (keysIn rest).map String.ofList

/-- The fields of a section that are given one by one; none where one of them is broken. -/
def fieldsOf? (shape : SectionShape) (named : List (String × String)) : Option Entries :=
  named.foldlM (fun entries pair =>
    match pathIn? shape pair.1 with
    | none => some entries
    | some path =>
      (fieldValue? shape path pair.2).map fun value =>
        enterPath value path.dropLast (path.getLastD "") entries) []

/-- The entries with the names of fields in their own letter case. -/
def normalizeFields (shape : SectionShape) (entries : Entries) : Entries :=
  Entries.ofPairs (entries.map fun (key, value) =>
    ((shape.fields.find? (· == String.ofList (Text.lower key.toList))).getD key, value))

mutual

/-- The values of `lower` under those of `upper`: maps are merged key by key, and everything
    else of `upper` replaces what is below it. -/
def mergeValue (lower upper : Value) : Value :=
  match upper, lower with
  | .map u, .map l => .map (mergeEntries l u)
  | u, _ => u
  termination_by (sizeOf upper, 0)

/-- The entries of `lower` with those of `upper` merged into them. -/
def mergeEntries (lower : Entries) : (upper : List (String × Value)) → Entries
  | [] => lower
  | (key, value) :: rest =>
    let merged := match lower.get? key with
      | some below => mergeValue below value
      | none => value
    mergeEntries (lower.insert key merged) rest
  termination_by upper => (sizeOf upper, 0)

end

/-- What the environment says of a section: nothing, a value, or something broken. -/
def sectionValue (named : List (String × String)) (shape : SectionShape) :
    Except String (Option Value) :=
  match named.lookup (variableStart ++ shape.name), fieldsOf? shape named with
  | none, none => .error shape.name
  | none, some [] => .ok none
  | none, some fields => .ok (some (.map (normalizeFields shape fields)))
  | some text, fields =>
    match Json.parse text.toList, fields with
    | .error _, _ => .error shape.name
    | .ok (.map entries), some fields =>
      .ok (some (.map (normalizeFields shape (mergeEntries entries fields))))
    | .ok (.map _), none => .error shape.name
    | .ok .null, _ => .ok none
    | .ok value, _ => .ok (some value)

/-- All settings in the environment, or the name of the section that is broken. -/
def environmentEntries (environment : List (String × String)) : Except String Entries := do
  let named := normalizeVariables environment
  let flags := flagNames.filterMap fun name =>
    (named.lookup (variableStart ++ name)).map fun text => (name, Value.str text)
  let sections ← sectionShapes.filterMapM fun shape => do
    return (← sectionValue named shape).map (shape.name, ·)
  return flags ++ sections

end Scaffold.Config
