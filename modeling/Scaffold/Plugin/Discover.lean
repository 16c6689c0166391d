import Scaffold.Files.Walk
import Scaffold.Plugin.Registry
import Scaffold.Text.Blank

/-!
# Discovering plugins

A project may have a directory of plugin files.  Each file is loaded by itself, and its plugin
classes are registered under the name of the file.  What goes wrong is logged and passed over.
-/

namespace Scaffold.Plugin

open Files

/-- The name that the classes of a plugin file are registered under. -/
def moduleName (fileName : String) : String :=
  let stem := if fileName = ".py" then fileName else (fileName.dropEnd 3).toString
  "scalanew_local_plugin_" ++ stem

/-- Whether a plugin file does nothing: its lines are blank or comments. -/
def doesNothing (text : List Char) : Bool :=
  (text.splitOn '\n').all fun l =>
    match l.dropWhile fun c => c == ' ' || c == '\t' || c == '\x0c' with
    | [] => true
    | c :: _ => c == '#'

/-- The module that a file holds; only one that is declared as a module, or that does nothing,
    loads. -/
def moduleOf (disk : Disk) (path : Path) : Module :=
  match disk.read path with
  | .ok (.plugin m) => m
  | .ok (.text s) => if doesNothing (Text.unifyLines s.toList) then .empty else .broken
  | _ => .broken

/-- Registers the plugin classes of a file one after the other; a class that cannot be registered
    is passed over. -/
def registerAll (path : Path) (name : String) :
    List Definition → Registry → List Log.Record × Registry
  | [], r => ([], r)
  | d :: ds, r =>
    match (if d.failsToStart then none else (r.register name d.name d).toOption) with
    | some r =>
      let (records, r) := registerAll path name ds r
      (Registry.registered name :: records, r)
    | none =>
      let (records, r) := registerAll path name ds r
      let failure := "Failed to instantiate plugin class " ++ d.name ++ " from " ++ path.toString
      (.warning logSource failure :: records, r)

/-- Loads a plugin file. -/
def loadFile (disk : Disk) (path : Path) (r : Registry) : List Log.Record × Registry :=
  let m := moduleOf disk path
  if m.loads then
    registerAll path (moduleName path.name)
      ((m.classes.filter (·.isPlugin)).mergeSort fun a b => a.name ≤ b.name) r
  else ([.warning logSource ("Failed to load local plugin " ++ path.toString)], r)

/-- Loads plugin files one after the other. -/
def loadFiles (disk : Disk) : List Path → Registry → List Log.Record × Registry
  | [], r => ([], r)
  | path :: paths, r =>
    let (records, r) := loadFile disk path r
    let (more, r) := loadFiles disk paths r
    (records ++ more, r)

/-- The plugin files directly in a directory, sorted by name. -/
def pluginFiles (disk : Disk) (dir : Path) : List Path :=
  match disk.locate true dir with
  | .error _ => []
  | .ok at_ =>
    ((disk.tree.children at_).filter fun name => name.endsWith ".py" && !name.startsWith "_").map
      dir.child

/-- Registers the plugins of a directory; a directory that is not there has none. -/
def discover (disk : Disk) (dir : Path) (r : Registry) :
    Except Files.Fault (List Log.Record × Registry) :=
  match disk.isDirectory? dir with
  | .error f => .error f
  | .ok false => .ok ([], r)
  | .ok true => .ok (loadFiles disk (pluginFiles disk dir) r)

end Scaffold.Plugin
