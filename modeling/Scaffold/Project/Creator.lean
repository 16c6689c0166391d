import Scaffold.Files.Discover
import Scaffold.Project.Workspace
import Scaffold.Scala.Ident
import Scaffold.Text.CaseMatch

/-!
# Creating source files

The operations on a project end in results: judging a name, creating the file for it, and what
helps to type one.  A name that is rejected is a failed result and not a fault.
-/

namespace Scaffold.Project

open Files Workspace

/-- The code of a kind of rejection. -/
def rejectionCode : Scala.Rejection.Kind → String
  | .invalidInput => "INVALID_NAME"
  | .collision => "NAME_COLLISION"
  | .notScalaProject => "NOT_A_SCALA_PROJECT"

/-- The failure that a rejected name is. -/
def rejected (op name : String) (why : Scala.Rejection) : Result :=
  .failure op (rejectionCode why.kind) why.message [("name", .str name)]

/-- The failure in a project without Scala sources. -/
def notScala (op : String) : Result :=
  .failure op (rejectionCode .notScalaProject) Scala.Rejection.notScalaProject.message []

/-- The failure in a project without source folders. -/
def noSourceRoot (op : String) : Result :=
  .failure op "NO_SOURCE_ROOT" "No source folder configured" []

/-- The failure that a misplaced name is. -/
def misplaced (op name : String) (why : Misplacement) : Result :=
  .failure op (rejectionCode .invalidInput) why.message [("name", .str name)]

/-- The failure for a kind that there is no template for. -/
def unknownKind (op kind : String) (available : List String) : Result :=
  .failure op "UNKNOWN_TEMPLATE" ("Unknown template kind: " ++ Text.quote kind)
    [("available", .ofStrings available)]

/-- A path as it is shown: relative to the root where it lies below it. -/
def displayed (root path : Path) : Json.Value :=
  .str ((root.relativeTo? path).getD path).toString

/-- Template variables as data. -/
def variableData (name : String) : Json.Value :=
  .map ((Scala.QualifiedName.bindings name).map fun (k, v) => (k, .str v))

/-- The first of several folders that is a directory. -/
def firstDirectory (disk : Disk) : List Path → Except Files.Fault (Option Path)
  | [] => .ok none
  | path :: paths =>
    match disk.isDirectory? path with
    | .error f => .error f
    | .ok found =>
      match firstDirectory disk paths with
      | .error f => .error f
      | .ok other => .ok (if found then some path else other)

/-- The folder to work in: the given one, else the first source folder that exists, else the
    first one. -/
def targetFolder (folder : Option Path) : Action Workspace (Option Path) := do
  match folder with
  | some folder => return some folder
  | none =>
    let roots := (← Action.get).settings.sourceRoots
    let found ← Action.ofFiles (firstDirectory (← Action.disk) roots)
    return found.orElse fun _ => roots.head?

/-- The objection to a new type of a name in a folder, if there is one. -/
def objection? (folder : Path) (name : String) : Action Workspace (Option Scala.Rejection) := do
  if !(← Action.get).settings.isScala then return some .notScalaProject
  else
    match ← Action.spanning "validate" (pure (Scala.nameObjection? name.toList)) with
    | some why => return some why
    | none =>
      let ask ← asker
      Action.spanning "existence_check" (takenObjection? ask folder name)

/-- The place of a name in a folder, or the failure if it has none. -/
def placeOrFail (op : String) (folder : Path) (name : String) :
    Action Workspace (Except Result Path) := do
  match place (← Action.disk) folder name with
  | .ok path => return .ok path
  | .error (.misplaced why) => return .error (misplaced op name why)
  | .error (.files fault) => Action.fail (.files fault)

/-- The folder and the path for a new type, or the failure if it cannot be created. -/
def accept (op : String) (folder : Option Path) (name : String) :
    Action Workspace (Except Result (Path × Path)) := do
  if !(← Action.get).settings.isScala then return .error (notScala op)
  else
    match ← targetFolder folder with
    | none => return .error (noSourceRoot op)
    | some target =>
      match ← objection? target name with
      | some why => return .error (rejected op name why)
      | none =>
        match ← placeOrFail op target name with
        | .error failure => return .error failure
        | .ok path => return .ok (target, path)

/-- Judges a name for a new type, without a report. -/
def validateNameCore (folder : Option Path) (name : String) : Action Workspace Result := do
  let op := "validate_name"
  match ← accept op folder name with
  | .error failure => return failure
  | .ok (target, _) =>
    let root := (← Action.get).settings.root
    return .success op [("name", .str name), ("folder", displayed root target),
      ("variables", variableData name)] []

/-- Judges a name for a new type. -/
def validateName (folder : Option Path) (name : String) : Action Workspace Result :=
  Action.traced "FileCreatorService.validate_name" (validateNameCore folder name)

/-- The text of a new source file, or the failure if its kind is not known. -/
def renderOrFail (op kind name : String) : Action Workspace (Except Result String) :=
  Action.spanning "render" do
    match ← render kind (Scala.QualifiedName.bindings name) with
    | .ok text => return .ok text
    | .error .notFound => return .error (unknownKind op kind (← kinds))
    | .error fault => Action.fail (.template fault)

/-- Writes a new source file, or fails where something is in its place. -/
def writeOrFail (op name : String) (path : Path) (text : String) :
    Action Workspace (Except Result Unit) :=
  Action.spanning "write" do
    match ← Action.change (·.writeNew path (.text text)) with
    | .ok () => return .ok ()
    | .error (.obstacle .alreadyExists _) => return .error (rejected op name .fileExists)
    | .error fault => Action.fail (.files fault)

/-- Creates the source file of a new type, without a report. -/
def createFileCore (folder : Option Path) (kind : Option String) (name : String) :
    Action Workspace Result := do
  let op := "create_file"
  let settings := (← Action.get).settings
  let kind := (kind.filter (· ≠ "")).getD settings.defaultTemplate
  match ← accept op folder name with
  | .error failure => return failure
  | .ok (_, path) =>
    match ← renderOrFail op kind name with
    | .error failure => return failure
    | .ok text =>
      match ← writeOrFail op name path text with
      | .error failure => return failure
      | .ok () =>
        let warnings ← onPlugins (Plugins.notify path.toString name kind)
        return .success op [("name", .str name), ("kind", .str kind),
          ("path", displayed settings.root path), ("variables", variableData name)] warnings

/-- Creates the source file of a new type: the text of the kind's template, written to the place
    of the name, which the plugins are then told of. -/
def createFile (folder : Option Path) (kind : Option String) (name : String) :
    Action Workspace Result :=
  Action.traced "FileCreatorService.create_file" (createFileCore folder kind name)

/-- The package prefix to start a name with in a file or directory, without a report. -/
def initialPathCore (resource : Path) : Action Workspace Result := do
  let settings := (← Action.get).settings
  let disk ← Action.disk
  let resource ← Action.ofFiles (disk.resolve resource)
  let roots ← Action.ofFiles (settings.sourceRoots.mapM disk.resolve)
  let isDirectory ← Action.ofFiles (disk.isDirectory? resource)
  return .success "initial_path" [("resource", displayed settings.root resource),
    ("initial_path", .str (packagePrefix resource roots isDirectory))] []

/-- The package prefix to start a name with in a file or directory. -/
def initialPath (resource : Path) : Action Workspace Result :=
  Action.traced "FileCreatorService.initial_path" (initialPathCore resource)

/-- The template variables of a name. -/
def templateVariables (name : String) : Action Workspace Result :=
  Action.traced "FileCreatorService.template_variables"
    (pure (.success "template_variables" [("name", .str name), ("variables", variableData name)]
      []))

/-- The packages below a folder that begin with a prefix, letter case aside. -/
def packagesFor (disk : Disk) (folder : Path) (pre : String) : Except Files.Fault (List String) :=
  (disk.packageDirectories folder).map fun found =>
    let packages := found.filter fun parts => parts.all fun p => Scala.isPackageIdent p.toList
    (packages.map (".".intercalate ·)).filter fun package =>
      Text.startsWithLetters pre.toList package.toList

/-- The packages to complete a prefix with, without a report. -/
def completionEntriesCore (folder : Option Path) (pre : String) : Action Workspace Result := do
  let op := "completion_entries"
  match ← targetFolder folder with
  | none => return noSourceRoot op
  | some target =>
    let items ← Action.ofFiles (packagesFor (← Action.disk) target pre)
    return .success op [("prefix", .str pre), ("items", .ofStrings items),
      ("count", .int items.length)] []

/-- The packages to complete a prefix with. -/
def completionEntries (folder : Option Path) (pre : String) : Action Workspace Result :=
  Action.traced "FileCreatorService.completion_entries" (completionEntriesCore folder pre)

end Scaffold.Project
