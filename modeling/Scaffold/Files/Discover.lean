import Scaffold.Files.Edit

/-!
# Finding packages and sources

Below a source root, directories are packages and files with the right ending are sources.  Hidden
ones are left out.  A link to a directory counts as a directory but is not entered.  Every entry on
the way is tested by its path, and a path that is too long to be tested ends the search.
-/

namespace Scaffold.Files

/-- Whether no component is hidden. -/
def isVisible (parts : List String) : Bool := parts.all fun part => !part.startsWith "."

/-- The path of what is below a root. -/
def Path.under (root : Path) (parts : List String) : Path := ⟨root.root, root.parts ++ parts⟩

/-- The locations of the entries that pass a test; a test that cannot be made is the end. -/
def tested (test : Location × Node → Except Fault Bool) :
    List (Location × Node) → Except Fault (List Location)
  | [] => .ok []
  | entry :: entries =>
    match test entry with
    | .error f => .error f
    | .ok found =>
      (tested test entries).map fun others => if found then entry.1 :: others else others

namespace Disk

/-- The components of all directories below a root, sorted. -/
def packageDirectories (d : Disk) (root : Path) : Except Fault (List (List String)) :=
  match d.isDirectory? root with
  | .error f => .error f
  | .ok false => .ok []
  | .ok true =>
    (tested (fun entry => d.isDirectory? (root.under entry.1)) (d.listing root)).map
      (·.filter isVisible)

/-- Whether an entry below a root is a source file.  Of the others only directories are looked at,
    as they are entered. -/
def isSource? (d : Disk) (root : Path) (entry : Location × Node) : Except Fault Bool :=
  if (entry.1.getLastD "").endsWith ".scala" then d.isFile? (root.under entry.1)
  else if entry.2.isDirectory then (d.isDirectory? (root.under entry.1)).map fun _ => false
  else .ok false

/-- The source files below a root, sorted. -/
def sourceFiles (d : Disk) (root : Path) : Except Fault (List Path) :=
  match d.isDirectory? root with
  | .error f => .error f
  | .ok false => .ok []
  | .ok true =>
    (tested (d.isSource? root) (d.listing root)).map fun found =>
      (found.filter isVisible).map root.under

end Disk

end Scaffold.Files
