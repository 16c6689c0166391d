import Scaffold.Config.Environment
import Scaffold.Config.Locate
import Scaffold.Schema.Coerce
import Scaffold.Toml.Parser

/-!
# Settings

Settings come from flags, the environment and the configuration file, in this order, and from
defaults for what none of them gives.  Sections are merged key by key.  The root of the project and
the path of the configuration file always come from the call.
-/

namespace Scaffold.Config

open Files Json Schema

/-- The section about the project. -/
structure ProjectSection where
  name : String
  natures : List String
  sourceDirs : List String
  classDirs : List String
  classpath : List String
  deriving Repr

/-- The section about the lookup of symbols. -/
structure LookupSection where
  enabled : Bool
  /-- The seconds to wait for an answer. -/
  timeout : Binary64
  workers : Int
  indexSources : Bool
  deriving Repr

/-- The settings of a project. -/
structure Settings where
  root : Path
  configPath : Option Path
  jsonOutput : Bool
  quiet : Bool
  verbose : Bool
  logJson : Bool
  noLookup : Bool
  project : ProjectSection
  lookup : LookupSection
  defaultTemplate : String
  deriving Repr

/-- Why there are no settings. -/
inductive Fault where
  | files (fault : Files.Fault)
  | invalidToml (path : Path) (message : String)
  /-- The text of a section in the environment is not JSON. -/
  | environment (section_ : String)
  | invalid (issues : List Issue)
  deriving Repr

/-- The text of a fault other than a list of issues. -/
def Fault.message : Fault → String
  | .files fault => fault.message
  | .invalidToml path message => "Invalid TOML in " ++ path.toString ++ ": " ++ message
  | .environment name =>
    "error parsing value for field \"" ++ name ++ "\" from source \"EnvSettingsSource\""
  | .invalid _ => ""

namespace ProjectSection

/-- What holds where nothing else is said. -/
def default : ProjectSection :=
  ⟨"my-project", ["scala"], ["src/main/scala", "src/test/scala"], ["target/classes"], []⟩

/-- Reads the section. -/
def read : Value → Read ProjectSection
  | .map es =>
    let name := readField es "name" (.ok default.name) fun v => whole (readText v)
    let natures := readField es "natures" (.ok default.natures) (readTexts .memory)
    let sources := readField es "source_dirs" (.ok default.sourceDirs) (readTexts .memory)
    let classes := readField es "class_dirs" (.ok default.classDirs) (readTexts .memory)
    let classpath := readField es "classpath" (.ok default.classpath) (readTexts .memory)
    match name, natures, sources, classes, classpath with
    | .ok name, .ok natures, .ok sources, .ok classes, .ok classpath =>
      .ok ⟨name, natures, sources, classes, classpath⟩
    | _, _, _, _, _ =>
      .error (issuesOf name ++ issuesOf natures ++ issuesOf sources ++ issuesOf classes ++
        issuesOf classpath)
  | _ => .error [⟨.notRecord "ProjectConfig", []⟩]

/-- The section as a map. -/
def toJson (s : ProjectSection) : Value :=
  .map [("name", .str s.name), ("natures", .ofStrings s.natures),
    ("source_dirs", .ofStrings s.sourceDirs), ("class_dirs", .ofStrings s.classDirs),
    ("classpath", .ofStrings s.classpath)]

end ProjectSection

namespace LookupSection

/-- What holds where nothing else is said. -/
def default : LookupSection := ⟨true, .ofInt 2, 1, true⟩

/-- Reads the section. -/
def read : Value → Read LookupSection
  | .map es =>
    let enabled := readField es "enabled" (.ok default.enabled) fun v => whole (readBool v)
    let timeout := readField es "timeout" (.ok default.timeout) fun v => whole (readFloat v)
    let workers := readField es "workers" (.ok default.workers) fun v => whole (readInt v)
    let sources :=
      readField es "index_sources" (.ok default.indexSources) fun v => whole (readBool v)
    match enabled, timeout, workers, sources with
    | .ok enabled, .ok timeout, .ok workers, .ok sources =>
      .ok ⟨enabled, timeout, workers, sources⟩
    | _, _, _, _ =>
      .error (issuesOf enabled ++ issuesOf timeout ++ issuesOf workers ++ issuesOf sources)
  | _ => .error [⟨.notRecord "LookupConfig", []⟩]

/-- The section as a map. -/
def toJson (s : LookupSection) : Value :=
  .map [("enabled", .bool s.enabled), ("timeout", .float s.timeout), ("workers", .int s.workers),
    ("index_sources", .bool s.indexSources)]

end LookupSection

/-- Reads the section about templates, which holds the default kind. -/
def readTemplates : Value → Read String
  | .map es => readField es "default" (.ok "class") fun v => whole (readText v)
  | _ => .error [⟨.notRecord "TemplatesConfig", []⟩]

namespace Settings

/-- The names of the settings that come from the call. -/
def callNames : List String := ["project_root", "config_path"]

/-- The names of all settings. -/
def names : List String := callNames ++ flagNames ++ sectionShapes.map (·.name)

/-- Reads a flag. -/
def readFlag (es : Entries) (name : String) : Read Bool :=
  readField es name (.ok false) fun v => whole (readBool v)

/-- The settings that are not known. -/
def unknown (es : Entries) : List Issue :=
  (es.keys.filter fun key => !names.contains key).map fun key => ⟨.extraField, [.field key]⟩

/-- Reads all settings from their merged entries. -/
def read (root : Path) (configPath : Option Path) (es : Entries) : Read Settings :=
  let json := readFlag es "json_output"
  let quiet := readFlag es "quiet"
  let verbose := readFlag es "verbose"
  let logJson := readFlag es "log_json"
  let noLookup := readFlag es "no_lookup"
  let project := readField es "project" (.ok .default) ProjectSection.read
  let lookup := readField es "lookup" (.ok .default) LookupSection.read
  let template := readField es "templates" (.ok "class") readTemplates
  let flags := [json, quiet, verbose, logJson, noLookup]
  let issues := flags.flatMap issuesOf ++ issuesOf project ++ issuesOf lookup ++
    issuesOf template ++ unknown es
  match json, quiet, verbose, logJson, noLookup, project, lookup, template with
  | .ok json, .ok quiet, .ok verbose, .ok logJson, .ok noLookup, .ok project, .ok lookup,
      .ok template =>
    if issues.isEmpty then
      .ok ⟨root, configPath, json, quiet, verbose, logJson, noLookup, project, lookup, template⟩
    else .error issues
  | _, _, _, _, _, _, _, _ => .error issues

/-- The source directories as paths. -/
def sourceRoots (s : Settings) : List Path :=
  s.project.sourceDirs.map fun dir => s.root.join (Path.ofString dir)

/-- Whether the project has Scala sources. -/
def isScala (s : Settings) : Bool := s.project.natures.contains "scala"

/-- The settings as a map, with what follows from them. -/
def toJson (s : Settings) : Value :=
  .map [("project_root", .str s.root.toString),
    ("config_path", (s.configPath.map fun p => Value.str p.toString).getD .null),
    ("json_output", .bool s.jsonOutput), ("quiet", .bool s.quiet), ("verbose", .bool s.verbose),
    ("log_json", .bool s.logJson), ("no_lookup", .bool s.noLookup),
    ("project", s.project.toJson), ("lookup", s.lookup.toJson),
    ("templates", .map [("default", .str s.defaultTemplate)]),
    ("source_roots", .ofStrings (s.sourceRoots.map Path.toString)),
    ("is_scala_project", .bool s.isScala)]

end Settings

/-- Reads a configuration file. -/
def tableIn (disk : Disk) (path : Path) : Except Fault Toml.Table :=
  match disk.readText path with
  | .error f => .error (.files f)
  | .ok text =>
    match Toml.parse text with
    | .ok table => .ok table
    | .error message => .error (.invalidToml path message)

/-- The settings in the configuration file.  A date is no value of any setting. -/
def fileEntries (disk : Disk) : Option Path → Except Fault Entries
  | none => .ok []
  | some path =>
    match disk.isFile? path with
    | .error f => .error (.files f)
    | .ok false => .ok []
    | .ok true => (tableIn disk path).map (Toml.entriesToJson fun _ => .null)

/-- What the caller decides: the root, the configuration file, and the flags that were given. -/
structure Call where
  root : Option Path
  configPath : Option Path
  flags : Entries

/-- The root and the configuration file that a call leads to. -/
def Call.place (call : Call) (disk : Disk) (environment : List (String × String)) :
    Except Files.Fault Location := do
  let location ← locate disk environment (call.root.getD ⟨.relative, []⟩)
  match call.configPath with
  | none => return ⟨call.root.getD location.root, location.configPath⟩
  | some path =>
    if ← disk.isFile? path then return ⟨call.root.getD path.parent, some path⟩
    else return ⟨call.root.getD location.root, none⟩

/-- The entries from all sources, merged. -/
def mergedEntries (flags environment file : Entries) : Entries :=
  mergeEntries (mergeEntries file environment) flags

/-- The settings that hold for a call. -/
def load (disk : Disk) (environment : List (String × String)) (call : Call) :
    Except Fault Settings := do
  let location ← (call.place disk environment).mapError .files
  let file ← fileEntries disk location.configPath
  let named ← (environmentEntries environment).mapError .environment
  let merged := mergedEntries call.flags named file
  (Settings.read location.root location.configPath merged).mapError .invalid

end Scaffold.Config
