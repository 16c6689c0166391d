import Scaffold.Files.Discover
import Scaffold.Plugin.Registry
import Scaffold.Scala.Declaration
import Scaffold.Scala.QualifiedName

/-!
# Symbol indexes

An index says whether a type exists.  The plugins are asked first, then the directories of compiled
classes, then the archives of compiled classes, then the declarations in sources.  Archives and
sources are read once, when a question first gets to them; plugins and directories are asked anew
each time.
-/

namespace Scaffold.Symbols

open Files Plugin

/-- The part of the program that writes the records of this folder. -/
def logSource : String := "scalanew.infrastructure.symbols"

/-- An index: where it looks, and what it has read. -/
structure Index where
  sourceRoots : List Path
  classDirs : List Path
  classpath : List Path
  /-- Whether declarations in sources count. -/
  indexSources : Bool
  /-- Whether questions are answered on a thread of their own. -/
  onWorker : Bool
  /-- The members of the archives, once they have been read. -/
  archived : Option (List String)
  /-- The types declared in the sources, once they have been read. -/
  declared : Option (List String)
  deriving Repr

/-- What a question to an index leads to. -/
structure Reply where
  answer : Except Files.Fault Bool
  index : Index
  calls : List Call
  records : List Log.Record

/-- Whether a class file is in one of the directories; the search ends at the first one. -/
def inClassDirs (disk : Disk) (file : Path) : List Path → Except Files.Fault Bool
  | [] => .ok false
  | dir :: dirs =>
    match disk.isFile? (dir.join file) with
    | .error f => .error f
    | .ok true => .ok true
    | .ok false => inClassDirs disk file dirs

/-- The compiled classes in archives, those that cannot be read passed over, and the records about
    them.  A path that is none ends the search. -/
def readArchives (disk : Disk) : List Path → List Log.Record × Except Files.Fault (List String)
  | [] => ([], .ok [])
  | path :: paths =>
    match disk.read path with
    | .error (.obstacle .embeddedNull p) => ([], .error (.obstacle .embeddedNull p))
    | .ok (.archive members) =>
      let (records, rest) := readArchives disk paths
      (records, rest.map (members.filter (·.endsWith ".class") ++ ·))
    | _ =>
      let (records, rest) := readArchives disk paths
      let skipped := "Skipping unreadable classpath entry " ++ path.toString
      (.warning logSource skipped :: records, rest)

/-- The types declared in source files, those that cannot be read passed over, and the records
    about them. -/
def readSources (disk : Disk) : List Path → List Log.Record × List String
  | [] => ([], [])
  | path :: paths =>
    let (records, types) := readSources disk paths
    match disk.readText path with
    | .ok text => (records, Scala.Declaration.qualifiedTypes text ++ types)
    | .error _ =>
      (.warning logSource ("Skipping unreadable source " ++ path.toString) :: records, types)

/-- The types declared below source roots.  A root that cannot be searched ends the search. -/
def readRoots (disk : Disk) : List Path → List Log.Record × Except Files.Fault (List String)
  | [] => ([], .ok [])
  | root :: roots =>
    match disk.sourceFiles root with
    | .error f => ([], .error f)
    | .ok files =>
      let (records, types) := readSources disk files
      let (more, rest) := readRoots disk roots
      (records ++ more, rest.map (types ++ ·))

namespace Index

/-- The index that has read nothing yet. -/
def fresh (sourceRoots classDirs classpath : List Path) (indexSources onWorker : Bool) : Index :=
  ⟨sourceRoots, classDirs, classpath, indexSources, onWorker, none, none⟩

/-- The index without a thread of its own. -/
def shutdown (index : Index) : Index := { index with onWorker := false }

/-- The index that has read its archives, or the fault that kept it from that. -/
def withArchives (index : Index) (disk : Disk) :
    List Log.Record × Except Files.Fault (List String) × Index :=
  match index.archived with
  | some members => ([], .ok members, index)
  | none =>
    match readArchives disk index.classpath with
    | (records, .error f) => (records, .error f, index)
    | (records, .ok found) =>
      let members := found.eraseDups
      let summary := "Indexed " ++ toString members.length ++ " classes from " ++
        toString index.classpath.length ++ " jars"
      (records ++ [.debug logSource summary], .ok members, { index with archived := some members })

/-- The index that has read its sources, or the fault that kept it from that. -/
def withSources (index : Index) (disk : Disk) :
    List Log.Record × Except Files.Fault (List String) × Index :=
  match index.declared with
  | some types => ([], .ok types, index)
  | none =>
    match readRoots disk index.sourceRoots with
    | (records, .error f) => (records, .error f, index)
    | (records, .ok found) =>
      let types := found.eraseDups
      (records ++ [.debug logSource ("Indexed " ++ toString types.length ++ " source types")],
        .ok types, { index with declared := some types })

/-- Whether a source declares a type. -/
def lookupDeclared (index : Index) (disk : Disk) (name : String) : Reply :=
  if index.indexSources then
    match index.withSources disk with
    | (records, types, index) => ⟨types.map (·.contains name), index, [], records⟩
  else ⟨.ok false, index, [], []⟩

/-- Whether an archive or a source has a type. -/
def lookupArchived (index : Index) (disk : Disk) (name : String) (classFile : String) : Reply :=
  match index.withArchives disk with
  | (records, .error f, index) => ⟨.error f, index, [], records⟩
  | (records, .ok members, index) =>
    if members.contains classFile then ⟨.ok true, index, [], records⟩
    else
      let reply := index.lookupDeclared disk name
      { reply with records := records ++ reply.records }

/-- Whether the files have a type. -/
def lookupFiles (index : Index) (disk : Disk) (name : String) : Reply :=
  let classFile := String.ofList (Scala.QualifiedName.classPath name.toList)
  match inClassDirs disk (.ofString classFile) index.classDirs with
  | .error f => ⟨.error f, index, [], []⟩
  | .ok true => ⟨.ok true, index, [], []⟩
  | .ok false => index.lookupArchived disk name classFile

/-- Whether a type exists, whatever the thread. -/
def answerFor (index : Index) (disk : Disk) (plugins : Option Registry) (name : String) : Reply :=
  match plugins with
  | none => index.lookupFiles disk name
  | some registry =>
    match registry.typeExists name with
    | (calls, records, some answer) =>
      let event := "Plugin answered " ++ answer.shown ++ " for " ++ name
      ⟨.ok answer.isPresent, index, calls, records ++ [.debug logSource event]⟩
    | (calls, records, none) =>
      let reply := index.lookupFiles disk name
      { reply with calls := calls, records := records ++ reply.records }

/-- Whether a type exists. -/
def lookup (index : Index) (disk : Disk) (plugins : Option Registry) (name : String) : Reply :=
  let reply := index.answerFor disk plugins name
  { reply with records := reply.records.map fun r => { r with onWorker := index.onWorker } }

end Index

end Scaffold.Symbols
