import Scaffold.CommandLine.Run

/-!
# The program

The program reads the files that a run may look at, runs the command line on them, and writes the
new files that the run has made.
-/

namespace Scaffold.Program

open Files

/-- The names of the environment variables that may hold settings. -/
def variableNames : List String :=
  let sections := Config.sectionShapes.flatMap fun shape =>
    shape.name :: shape.fields.map fun field => shape.name ++ Config.fieldSeparator ++ field
  Config.fileVariable ::
    (Config.flagNames ++ sections).map fun name => (Config.variableStart ++ name).toUpper

/-- The environment as far as settings go. -/
def readEnvironment : IO (List (String × String)) :=
  variableNames.filterMapM fun name => do return (← IO.getEnv name).map (name, ·)

/-- The text of the path of a location. -/
def pathText (at_ : Location) : String := Path.toString ⟨.single, at_⟩

/-- The real location of a path. -/
def realLocation (path : String) : IO Location := do
  return (Path.ofString (← IO.FS.realPath path).toString).parts

/-- The node at a location whose directory is real. -/
def readNode (at_ : Location) (isDirectory : Bool) : IO Node := do
  let real ← realLocation (pathText at_)
  if real ≠ at_ then return .link (pathText real)
  else if isDirectory then return .directory
  else return .file (.ofBytes (← IO.FS.readBinFile (pathText at_)))

/-- The nodes at an entry of the directory at a real location, and below it.  What cannot be read
    is left out. -/
partial def readBelow (above : Location) (entry : IO.FS.DirEntry) :
    IO (List (Location × Node)) := do
  let at_ := above ++ [entry.fileName]
  try
    let node ← readNode at_ (← entry.path.isDir)
    if !node.isDirectory then return [(at_, node)]
    let inner ← (← entry.path.readDir).toList.mapM (readBelow at_)
    return (at_, node) :: inner.flatten
  catch _ => return []

/-- The files in the directory at a real location that say where a project begins. -/
def readMarkers (dir : Location) : IO (List (Location × Node)) :=
  (Config.fileName :: Config.buildMarkers).filterMapM fun name => do
    let at_ := dir ++ [name]
    try return some (at_, ← readNode at_ false)
    catch _ => return none

/-- The directory at a location and all directories above it. -/
def directoriesTo (dir : Location) : List Location :=
  ((⟨.single, dir⟩ : Path).ancestors.map (·.parts)).filter (· ≠ [])

/-- The disk that a run from a directory may look at: what says where projects begin in the
    directories above it, and everything in the project. -/
def readDisk (here : Location) (environment : List (String × String)) : IO Disk := do
  let directories := directoriesTo here
  let markers ← directories.mapM readMarkers
  let outline : Tree := ⟨directories.map (·, .directory) ++ markers.flatten⟩
  let top := match Config.locate ⟨outline, here⟩ environment ⟨.relative, []⟩ with
    | .ok location => if location.root.parts.isPrefixOf here then location.root.parts else here
    | .error _ => here
  let entries ← (← IO.FS.realPath (pathText top)).readDir
  let inner ← entries.toList.mapM (readBelow top)
  let outside := outline.nodes.filter fun node => !top.isPrefixOf node.1 || node.1 = top
  return ⟨⟨outside ++ inner.flatten⟩, here⟩

/-- Writes what is in one tree and not in another, directories before what is in them. -/
def writeNew (before after : Tree) : IO Unit := do
  let fresh := after.nodes.filter fun node => (before.get? node.1).isNone
  for (at_, node) in fresh.reverse do
    match node with
    | .directory => IO.FS.createDirAll (pathText at_)
    | .file (.text text) => IO.FS.writeFile (pathText at_) text
    | _ => pure ()

end Scaffold.Program

open Scaffold Program in
/-- Runs the command line that the program was called with.  Log records carry the time since the
    system was started, in milliseconds. -/
def main (args : List String) : IO UInt32 := do
  let here ← realLocation "."
  let environment ← readEnvironment
  let disk ← readDisk here environment
  let time := toString (← IO.monoMsNow)
  let (output, world) := CommandLine.run time environment args ⟨disk, .off, [], []⟩
  writeNew disk.tree world.disk.tree
  IO.print output.stdout
  IO.eprint output.stderr
  if let some fault := output.escape then IO.eprintln ("Error: " ++ fault.message)
  return output.exit.toUInt32
