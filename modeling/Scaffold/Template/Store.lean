import Scaffold.Files.Walk
import Scaffold.Template.Syntax

/-!
# Template stores

A store looks a template up by name, in the directories that a project may have for its own ones
first and among the built-in ones last.  It keeps every template that it has read, and reads it
again only once the file that it came from has changed.
-/

namespace Scaffold.Template

open Files

/-- The ending of template files. -/
def fileEnding : String := ".scala.j2"

/-- The beginning that all built-in templates share. -/
def packageHeader : String :=
  "\x7b% if package_name %\x7dpackage \x7b\x7b package_name \x7d\x7d\n\n\x7b% endif %\x7d"

/-- The mark for the name of the type. -/
def typeMark : String := "\x7b\x7b type_name \x7d\x7d"

/-- The built-in templates, by file name, in alphabetical order. -/
def builtIn : List (String × String) :=
  [("app.scala.j2", packageHeader ++ "object " ++ typeMark ++
      " \x7b\n\n  def main(args: Array[String]): Unit = \x7b\n  \x7d\n\n\x7d\n"),
    ("case-class.scala.j2", packageHeader ++ "final case class " ++ typeMark ++ "()\n"),
    ("class.scala.j2", packageHeader ++ "class " ++ typeMark ++ " \x7b\n\n\x7d\n"),
    ("object.scala.j2", packageHeader ++ "object " ++ typeMark ++ " \x7b\n\n\x7d\n"),
    ("trait.scala.j2", packageHeader ++ "trait " ++ typeMark ++ " \x7b\n\n\x7d\n")]

/-- Where a template came from: the built-in ones, or a file that held a text. -/
inductive Origin where
  | builtIn
  | file (path : Path) (text : List Char)
  deriving Repr

/-- A template that has been read. -/
structure Entry where
  nodes : List Node
  origin : Origin

/-- The template directories of a project, in the order of the search, and what has been
    read. -/
structure Store where
  directories : List Path
  cache : List (String × Entry)

/-- Why no template can be had. -/
inductive Fault where
  | notFound
  | malformed
  /-- The file is there but cannot be read. -/
  | unreadable (fault : Files.Fault)
  /-- Templates include each other without end. -/
  | endless
  deriving Repr

/-- The store with the built-in templates only. -/
def Store.builtInOnly : Store := ⟨[], []⟩

/-- The store of a project. -/
def Store.ofProject (root : Path) : Store :=
  let shared : Path := ⟨root.root, root.parts ++ [".scalanew", "templates"]⟩
  ⟨[shared.child "scala", shared], []⟩

/-- The components of a template name; a name that leads upwards has none. -/
def nameParts? (name : String) : Option (List String) :=
  if (name.toList.splitOn '/').contains ['.', '.'] then none else some (Path.partsOf name.toList)

/-- The first directory's file of that name. -/
def Store.fileOf? (store : Store) (disk : Disk) (parts : List String) : Option Path :=
  (store.directories.map fun dir => (⟨dir.root, dir.parts ++ parts⟩ : Path)).find? disk.hasFile

/-- Turns the text of a template into an entry. -/
def entryOf (origin : Origin) (text : List Char) : Except Fault Entry :=
  match parse text with
  | .ok nodes => .ok ⟨nodes, origin⟩
  | .error _ => .error .malformed

/-- Reads a template that is not in the cache. -/
def Store.load (store : Store) (disk : Disk) (name : String) : Except Fault Entry :=
  match nameParts? name with
  | none => .error .notFound
  | some parts =>
    match store.fileOf? disk parts with
    | some path =>
      match disk.readText path with
      | .error fault => .error (.unreadable fault)
      | .ok text => entryOf (.file path text) text
    | none =>
      match builtIn.lookup ("/".intercalate parts) with
      | some text => entryOf .builtIn text.toList
      | none => .error .notFound

/-- Whether an entry still says what its file says. -/
def Entry.isCurrent (entry : Entry) (disk : Disk) : Bool :=
  match entry.origin with
  | .builtIn => true
  | .file path text =>
    match disk.readText path with
    | .ok now => now == text
    | .error _ => false

/-- The template of a name, and the store that remembers it. -/
def Store.get (store : Store) (disk : Disk) (name : String) : Except Fault (List Node) × Store :=
  match store.cache.lookup name with
  | some entry =>
    if entry.isCurrent disk then (.ok entry.nodes, store) else fresh
  | none => fresh
where
  fresh : Except Fault (List Node) × Store :=
    match store.load disk name with
    | .ok entry =>
      (.ok entry.nodes, { store with cache := (name, entry) :: store.cache.filter (·.1 ≠ name) })
    | .error fault => (.error fault, store)

/-- How deep templates may include each other. -/
def inclusionLimit : Nat := 200

/-- The text of pieces, where `deeper?` gives the text of an included template, if templates may
    still be included. -/
def Store.expandWith (disk : Disk) (bindings : List (String × String))
    (deeper? : Option (Store → List Piece → Except Fault (List Char) × Store)) (store : Store) :
    List Piece → Except Fault (List Char) × Store
  | [] => (.ok [], store)
  | .text s :: rest =>
    match expandWith disk bindings deeper? store rest with
    | (.ok more, store) => (.ok (s ++ more), store)
    | failed => failed
  | .inclusion name :: rest =>
    match deeper? with
    | none => (.error .endless, store)
    | some deeper =>
      match store.get disk name with
      | (.error fault, store) => (.error fault, store)
      | (.ok nodes, store) =>
        match deeper store (piecesOf bindings nodes) with
        | (.error fault, store) => (.error fault, store)
        | (.ok inner, store) =>
          match expandWith disk bindings deeper? store rest with
          | (.ok more, store) => (.ok (inner ++ more), store)
          | failed => failed

/-- The text of pieces, templates included up to a depth. -/
def Store.expand (disk : Disk) (bindings : List (String × String)) :
    (depth : Nat) → Store → List Piece → Except Fault (List Char) × Store
  | 0 => expandWith disk bindings none
  | depth + 1 => expandWith disk bindings (some (expand disk bindings depth))

/-- The text of a kind of source file with the given variables. -/
def Store.render (store : Store) (disk : Disk) (kind : String)
    (bindings : List (String × String)) : Except Fault String × Store :=
  match store.expand disk bindings inclusionLimit [.inclusion (kind ++ fileEnding)] with
  | (.ok text, store) => (.ok (String.ofList text), store)
  | (.error fault, store) => (.error fault, store)

/-- Whether an entry of a listed directory counts as a file: it is no directory, and no link that
    is seen to lead to one. -/
def isListed (disk : Disk) (path : Path) : Files.Node → Bool
  | .directory => false
  | .file _ => true
  | .link _ =>
    match disk.node path with
    | .ok node => !node.isDirectory
    | .error _ => true

/-- The names of the files directly in a directory. -/
def fileNames (disk : Disk) (dir : Path) : List String :=
  match disk.locate true dir with
  | .error _ => []
  | .ok at_ =>
    (disk.tree.children at_).filter fun name =>
      (disk.tree.get? (at_ ++ [name])).any (isListed disk (dir.child name))

/-- The kind that a file name stands for. -/
def kindOf? (fileName : String) : Option String :=
  if fileName.endsWith fileEnding then some (fileName.dropEnd fileEnding.length).toString else none

/-- The kinds of source files that the store has a template for, sorted. -/
def Store.kinds (store : Store) (disk : Disk) : List String :=
  let names := store.directories.flatMap (fileNames disk) ++ builtIn.map (·.1)
  (names.filterMap kindOf?).mergeSort.eraseDups

end Scaffold.Template
