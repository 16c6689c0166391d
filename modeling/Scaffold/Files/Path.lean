/-!
# Paths

A path is read into a root and components once: repeated slashes and `.` components vanish,
`..` stays, and exactly two leading slashes are a root of their own.
-/

namespace Scaffold.Files

/-- Where a path starts. -/
inductive Root where
  | relative
  | single
  | double
  deriving DecidableEq, Repr, Inhabited

/-- A path: its root and its components, none of which is empty or `.` when it was read from
    text. -/
structure Path where
  root : Root
  parts : List String
  deriving DecidableEq, Repr, Inhabited

/-- The text of a root. -/
def Root.text : Root → String
  | relative => ""
  | single => "/"
  | double => "//"

namespace Path

/-- The root of a text, by its leading slashes. -/
def rootOf (text : List Char) : Root :=
  match (text.takeWhile (· == '/')).length with
  | 0 => .relative
  | 2 => .double
  | _ => .single

/-- The components of a text: the parts between slashes that are neither empty nor `.`. -/
def partsOf (text : List Char) : List String :=
  ((text.splitOn '/').map String.ofList).filter fun part => part ≠ "" && part ≠ "."

/-- The path that a text spells. -/
def ofString (text : String) : Path := ⟨rootOf text.toList, partsOf text.toList⟩

/-- Whether a path starts at a root. -/
def isAbsolute (p : Path) : Bool := p.root != .relative

/-- The text of a path; the empty path is `.`. -/
def toString (p : Path) : String :=
  match p.root, p.parts with
  | .relative, [] => "."
  | root, parts => root.text ++ "/".intercalate parts

/-- `p` followed by `q`; an absolute `q` stands for itself. -/
def join (p q : Path) : Path := if q.isAbsolute then q else ⟨p.root, p.parts ++ q.parts⟩

/-- `p` with one more component. -/
def child (p : Path) (name : String) : Path := ⟨p.root, p.parts ++ [name]⟩

/-- The path without its last component; a path without components is its own parent. -/
def parent (p : Path) : Path := ⟨p.root, p.parts.dropLast⟩

/-- The last component, or the empty text. -/
def name (p : Path) : String := p.parts.getLastD ""

/-- The path and all its parents, the path first. -/
def ancestors (p : Path) : List Path :=
  ((List.range (p.parts.length + 1)).reverse).map fun n => ⟨p.root, p.parts.take n⟩

/-- The components behind `base`, if `p` begins with `base`. -/
def relativeTo? (base p : Path) : Option Path :=
  if base.root = p.root ∧ base.parts.isPrefixOf p.parts then
    some ⟨.relative, p.parts.drop base.parts.length⟩
  else none

/-- Whether the components of `pre` are the first ones of `p`; roots are left aside. -/
def beginsWith (pre p : Path) : Bool := pre.parts.isPrefixOf p.parts

theorem join_relative (p : Path) (parts : List String) :
    p.join ⟨.relative, parts⟩ = ⟨p.root, p.parts ++ parts⟩ := rfl

theorem relativeTo?_isSome {base p : Path} :
    (base.relativeTo? p).isSome = true ↔ base.root = p.root ∧ base.parts <+: p.parts := by
  unfold relativeTo?
  split <;> simp_all

theorem dropLast_append_name {p : Path} (nonempty : p.parts ≠ []) :
    p.parts.dropLast ++ [p.name] = p.parts := by
  rw [name, List.getLastD_eq_getLast?, List.getLast?_eq_some_getLast nonempty]
  exact List.dropLast_concat_getLast nonempty

theorem name_mem {p : Path} (nonempty : p.parts ≠ []) : p.name ∈ p.parts := by
  rw [← dropLast_append_name nonempty]
  exact List.mem_append_right _ List.mem_cons_self

/-- A component that a path does not have is not its last one. -/
theorem name_ne {p : Path} {part : String} (absent : part ∉ p.parts) (nonempty : p.parts ≠ []) :
    p.name ≠ part :=
  fun same => absent (same ▸ name_mem nonempty)

/-- A component that a path does not have is not one of its parent. -/
theorem not_mem_parent {p : Path} {part : String} (absent : part ∉ p.parts) :
    part ∉ p.parent.parts :=
  fun member => absent ((List.dropLast_sublist _).mem member)

/-- A path with components is the child of its parent. -/
theorem parent_child {p : Path} (nonempty : p.parts ≠ []) : p.parent.child p.name = p := by
  rw [parent, child, dropLast_append_name nonempty]

theorem parent_of_parts_nil {p : Path} (empty : p.parts = []) : p.parent = p := by
  rw [parent, empty, List.dropLast_nil, ← empty]

/-- Only a path without components is its own parent. -/
theorem parts_nil_of_parent {p : Path} (top : p.parent = p) : p.parts = [] := by
  have shorter : p.parts.length - 1 = p.parts.length := by
    rw [← List.length_dropLast]
    exact congrArg (·.parts.length) top
  exact List.eq_nil_of_length_eq_zero (by omega)

end Path

/-- The dotted package in front of a type in the file or directory `resource`: the components
    behind the first source root that it begins with, without a file's own name.  A text that
    is not empty ends with a dot. -/
def packagePrefix (resource : Path) (sourceRoots : List Path) (isDirectory : Bool) : String :=
  match sourceRoots.find? (·.beginsWith resource) with
  | none => ""
  | some root =>
    let behind := resource.parts.drop root.parts.length
    let packages := if isDirectory then behind else behind.dropLast
    let joined := ".".intercalate packages
    if joined = "" then "" else joined ++ "."

end Scaffold.Files
