import Scaffold.Files.Walk

/-!
# Real paths

The real path of a path has no links and no `..` in it.  It exists for paths that lead nowhere as
well: a component that is not there is taken as it stands, and `..` behind it removes it again.
-/

namespace Scaffold.Files

/-- The components with every `..` and the component before it removed. -/
def removeParents (parts : List String) : List String :=
  parts.foldl (fun kept part => if part = ".." then kept.dropLast else kept ++ [part]) []

namespace Path

/-- The path of the directory above a path without links; above the start of a relative path it
    goes on with `..`. -/
def above (p : Path) : Path :=
  if p.isAbsolute then p.parent
  else if p.parts = [] ∨ p.name = ".." then p.child ".."
  else p.parent

end Path

/-- What is known of the links met so far: where a link leads, or that it is being followed. -/
abbrev Links := List (Path × Option Path)

/-- A real path, whether it was reached without a loop, and the links met. -/
structure Resolution where
  path : Path
  complete : Bool
  links : Links

namespace Disk

/-- The location of a path without links. -/
def plainLocation (d : Disk) (p : Path) : Location :=
  removeParents (if p.isAbsolute then p.parts else d.here ++ p.parts)

/-- The path that components lead to from a path without links on, where `deeper?` follows the
    target of a link that is met for the first time, if that may be followed.  A link that leads
    back to itself ends the search where it stands. -/
def resolveWith (d : Disk) (deeper? : Option (Links → Path → List String → Resolution))
    (links : Links) (p : Path) : List String → Resolution
  | [] => ⟨p, true, links⟩
  | name :: rest =>
    if name = ".." then resolveWith d deeper? links p.above rest
    else
      match d.tree.get? (d.plainLocation (p.child name)) with
      | some (.link target) =>
        match links.lookup (p.child name) with
        | some (some known) => resolveWith d deeper? links known rest
        | some none => ⟨⟨p.root, p.parts ++ name :: rest⟩, false, links⟩
        | none =>
          match deeper? with
          | none => ⟨⟨p.root, p.parts ++ name :: rest⟩, false, links⟩
          | some deeper =>
            let path := Path.ofString target
            let inner := deeper ((p.child name, none) :: links)
              (if path.isAbsolute then ⟨.single, []⟩ else p) path.parts
            if inner.complete then
              resolveWith d deeper? ((p.child name, some inner.path) :: inner.links)
                inner.path rest
            else ⟨⟨inner.path.root, inner.path.parts ++ rest⟩, false, inner.links⟩
      | _ => resolveWith d deeper? links (p.child name) rest

/-- The path that components lead to from a path without links on.  `depth` bounds how deep links
    lead to links. -/
def resolveFrom (d : Disk) : (depth : Nat) → Links → Path → List String → Resolution
  | 0 => d.resolveWith none
  | depth + 1 => d.resolveWith (some (resolveFrom d depth))

/-- The real path of a path.  A null character and a loop of links are faults. -/
def resolve (d : Disk) (p : Path) : Except Fault Path :=
  if p.parts.any fun part => part.toList.contains '\x00' then
    .error (.obstacle .embeddedNull p)
  else
    let start : Path := if p.isAbsolute then ⟨.single, []⟩ else ⟨.relative, []⟩
    let found := d.resolveFrom (2 * d.tree.linkCount + 1) [] start p.parts
    let path : Path := ⟨.single, d.plainLocation found.path⟩
    match d.node path with
    | .error .tooManyLinks => .error (.linkLoop path)
    | _ => .ok path

end Disk

end Scaffold.Files
