import Scaffold.Files.Walk

/-!
# Editing trees

Changes to a tree that an editor or a tool makes: putting something in a place, whatever was there,
removing it, and listing what is below a directory.
-/

namespace Scaffold.Files.Disk

/-- Puts a file or a link at a path and makes the directories above it; a directory stays if it is
    there.  What cannot be put there is left out. -/
def put (d : Disk) (p : Path) (node : Node) : Disk :=
  let d := (d.makeDirectories p.parent p.parts.length).2
  match node with
  | .directory => (d.makeDirectories p p.parts.length).2
  | node =>
    match d.locate true p with
    | .ok at_ => if d.tree.isDirectory at_ then d else { d with tree := d.tree.replace at_ node }
    | .error _ =>
      match d.add p node with
      | .ok d => d
      | .error _ => d

/-- Removes what is at a path, with everything below it; links are not followed at the end. -/
def removeAll (d : Disk) (p : Path) : Disk :=
  match d.locate false p with
  | .ok at_ => { d with tree := d.tree.remove at_ }
  | .error _ => d

/-- Everything below a directory, links not followed, sorted by components. -/
def listing (d : Disk) (p : Path) : List (Location × Node) :=
  match d.locate true p with
  | .ok at_ => d.tree.below at_
  | .error _ => []

/-- The disk seen from another directory. -/
def seenFrom (d : Disk) (p : Path) : Disk :=
  match d.locate true p with
  | .ok at_ => { d with here := at_ }
  | .error _ => d

end Scaffold.Files.Disk
