import Scaffold.Files.Archive
import Scaffold.Files.Path
import Scaffold.Plugin.Module
import Scaffold.Text.Lines
import Scaffold.Text.Utf8

/-!
# File trees

A tree of files is kept flat: every node is listed under its location, the components that lead to
it from the root.  The root is a directory that is not listed.
-/

namespace Scaffold.Files

/-- The place of a node: the components that lead to it from the root. -/
abbrev Location := List String

/-- What a file holds.  Text is kept as text, everything else by what it is. -/
inductive Content where
  | text (s : String)
  /-- Bytes that are not text. -/
  | bytes (bs : List UInt8)
  /-- An archive with members of the given names. -/
  | archive (entries : List String)
  /-- A plugin module. -/
  | plugin (module : Plugin.Module)
  deriving Repr

/-- The content that some bytes are. -/
def Content.ofBytes (bs : ByteArray) : Content :=
  match Archive.members? bs with
  | some members => .archive members
  | none =>
    match Text.Utf8.decode bs.toList with
    | .ok cs => .text (String.ofList cs)
    | .error _ => .bytes bs.toList

/-- A node of a tree. -/
inductive Node where
  | directory
  | file (content : Content)
  /-- A symbolic link to a path. -/
  | link (target : String)
  deriving Repr

/-- Whether a node is a directory. -/
def Node.isDirectory : Node → Bool
  | .directory => true
  | _ => false

/-- Whether a node is a regular file. -/
def Node.isFile : Node → Bool
  | .file _ => true
  | _ => false

/-- A tree of files: its nodes with their locations. -/
structure Tree where
  nodes : List (Location × Node)
  deriving Repr, Inhabited

namespace Tree

/-- The tree with only the root. -/
def empty : Tree := ⟨[]⟩

/-- The node at a location. -/
def get? (t : Tree) (at_ : Location) : Option Node :=
  if at_ = [] then some .directory else t.nodes.lookup at_

/-- Whether a location holds a directory. -/
def isDirectory (t : Tree) (at_ : Location) : Bool := ((t.get? at_).map Node.isDirectory).getD false

/-- The tree with a further node at a location that was free. -/
def insert (t : Tree) (at_ : Location) (node : Node) : Tree := ⟨(at_, node) :: t.nodes⟩

/-- The tree without a location and everything below it. -/
def remove (t : Tree) (at_ : Location) : Tree :=
  ⟨t.nodes.filter fun entry => !at_.isPrefixOf entry.1⟩

/-- The tree with a node in place of whatever was at a location. -/
def replace (t : Tree) (at_ : Location) (node : Node) : Tree := (t.remove at_).insert at_ node

/-- The names directly below a location, sorted. -/
def children (t : Tree) (at_ : Location) : List String :=
  (t.nodes.filterMap fun entry =>
    if entry.1 ≠ [] ∧ entry.1.dropLast = at_ then entry.1.getLast? else none).mergeSort

/-- The nodes below a location, with the components that lead to them from there, sorted. -/
def below (t : Tree) (at_ : Location) : List (Location × Node) :=
  (t.nodes.filterMap fun entry =>
    if at_.isPrefixOf entry.1 ∧ at_ ≠ entry.1 then
      some (entry.1.drop at_.length, entry.2)
    else none).mergeSort fun a b => !b.1.lex a.1 fun x y => x < y

/-- The number of links. -/
def linkCount (t : Tree) : Nat :=
  t.nodes.countP fun entry => match entry.2 with
    | .link _ => true
    | _ => false

theorem get?_insert_self (t : Tree) {at_ : Location} (node : Node) (h : at_ ≠ []) :
    (t.insert at_ node).get? at_ = some node := by
  simp [get?, insert, h]

theorem get?_insert_of_ne (t : Tree) {at_ other : Location} (node : Node) (h : other ≠ at_) :
    (t.insert at_ node).get? other = t.get? other := by
  have hb : (other == at_) = false := by simp [h]
  simp only [get?, insert, List.lookup_cons, hb]

end Tree

end Scaffold.Files
