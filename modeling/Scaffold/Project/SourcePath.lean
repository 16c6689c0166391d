import Scaffold.Files.Resolve
import Scaffold.Scala.QualifiedName

/-!
# Places of source files

The source file of a type lies below a source folder, in directories named like its packages.  A
name must not lead anywhere else: it holds no separator of path components, and the real path of
its file is below the real path of the folder.
-/

namespace Scaffold.Project

open Files

/-- Why a name has no place in a folder. -/
inductive Misplacement where
  | separator (name : String)
  | outside (path : Path)
  | embeddedNull
  deriving DecidableEq, Repr

/-- The words for a misplacement. -/
def Misplacement.message : Misplacement → String
  | .separator name => "Type name contains a path separator: " ++ Text.quote name
  | .outside path => "Path escapes source folder: " ++ path.toString
  | .embeddedNull => Obstacle.embeddedNull.describe.2

/-- Why no place can be told: the name has none, or following its path fails. -/
inductive PlaceFault where
  | misplaced (why : Misplacement)
  | files (fault : Files.Fault)
  deriving Repr

/-- The fault that failing to follow a path is. -/
def PlaceFault.ofFiles : Files.Fault → PlaceFault
  | .obstacle .embeddedNull _ => .misplaced .embeddedNull
  | fault => .files fault

/-- Whether a character separates path components on some system. -/
def isSeparator (c : Char) : Bool := c == '/' || c == '\\'

/-- The path of a type's source file, whether or not it leads out of the folder. -/
def sourcePath (folder : Path) (name : String) : Path :=
  folder.join (.ofString (String.ofList (Scala.QualifiedName.relativePath name.toList)))

/-- The place of a type's source file. -/
def place (disk : Disk) (folder : Path) (name : String) : Except PlaceFault Path := do
  if name.toList.any isSeparator then throw (.misplaced (.separator name))
  let path := sourcePath folder name
  let real ← (disk.resolve path).mapError .ofFiles
  let realFolder ← (disk.resolve folder).mapError .ofFiles
  if (realFolder.relativeTo? real).isSome then return path
  else throw (.misplaced (.outside path))

/-- Whether anything is at the path of a type's source file. -/
def sourceExists (disk : Disk) (folder : Path) (name : String) : Except Files.Fault Bool :=
  disk.exists? (sourcePath folder name)

end Scaffold.Project
