import Scaffold.Files.Tree
import Scaffold.Text.Quoted

/-!
# Following paths

A path is followed component by component; symbolic links on the way are replaced by their targets,
up to a fixed number of them.  Following ends at a node, or at the obstacle that was met first.
-/

namespace Scaffold.Files

/-- Why a path cannot be followed or used. -/
inductive Obstacle where
  | notFound
  | alreadyExists
  | notDirectory
  | isDirectory
  | nameTooLong
  | tooManyLinks
  /-- The path holds the null character. -/
  | embeddedNull
  deriving DecidableEq, Repr

/-- The number and the words of an obstacle. -/
def Obstacle.describe : Obstacle → Nat × String
  | .notFound => (2, "No such file or directory")
  | .alreadyExists => (17, "File exists")
  | .notDirectory => (20, "Not a directory")
  | .isDirectory => (21, "Is a directory")
  | .nameTooLong => (36, "File name too long")
  | .tooManyLinks => (40, "Too many levels of symbolic links")
  | .embeddedNull => (0, "embedded null byte")

/-- Whether an obstacle just means that nothing is there. -/
def Obstacle.meansAbsent : Obstacle → Bool
  | .notFound | .notDirectory | .tooManyLinks | .embeddedNull => true
  | _ => false

/-- A failed use of the files. -/
inductive Fault where
  /-- A path that could not be used. -/
  | obstacle (why : Obstacle) (path : Path)
  /-- A path whose links lead back to themselves. -/
  | linkLoop (path : Path)
  /-- A file whose bytes are not text. -/
  | notText (fault : Text.Utf8.Fault)
  deriving Repr

/-- The words for bytes that are not text. -/
def notTextMessage (f : Text.Utf8.Fault) : String :=
  let bytes := if f.width = 1 then
      "byte 0x" ++ String.ofList (Text.hexDigits 2 f.byte.toNat) ++ " in position " ++
        toString f.position
    else
      "bytes in position " ++ toString f.position ++ "-" ++ toString (f.position + f.width - 1)
  "'utf-8' codec can't decode " ++ bytes ++ ": " ++ f.reason.message

/-- The text of a fault. -/
def Fault.message : Fault → String
  | .obstacle .embeddedNull _ => Obstacle.embeddedNull.describe.2
  | .obstacle why path =>
    "[Errno " ++ toString why.describe.1 ++ "] " ++ why.describe.2 ++ ": " ++
      Text.quote path.toString
  | .linkLoop path => "Symlink loop from " ++ Text.quote path.toString
  | .notText f => notTextMessage f

/-- The greatest number of bytes in a component. -/
def maxNameBytes : Nat := 255

/-- The number of bytes that a path must stay below. -/
def maxPathBytes : Nat := 4096

/-- The number of links that may be met on the way. -/
def maxLinks : Nat := 40

namespace Tree

/-- The location reached from a directory by following components, where `through` goes on at the
    target of a link; a link at the very end is followed only if `final` says so. -/
def walkWith (t : Tree) (final : Bool)
    (through : Location → List String → Except Obstacle Location) (at_ : Location) :
    List String → Except Obstacle Location
  | [] => .ok at_
  | name :: rest =>
    if !t.isDirectory at_ then .error .notDirectory
    else if name = ".." then walkWith t final through at_.dropLast rest
    else if maxNameBytes < Text.Utf8.size name then .error .nameTooLong
    else
      match t.get? (at_ ++ [name]) with
      | none => .error .notFound
      | some (.link target) =>
        if rest = [] ∧ final = false then .ok (at_ ++ [name])
        else
          let path := Path.ofString target
          through (if path.isAbsolute then [] else at_) (path.parts ++ rest)
      | some _ => walkWith t final through (at_ ++ [name]) rest

/-- The location reached from a directory by following components, through at most `links`
    links. -/
def walk (t : Tree) (final : Bool) :
    (links : Nat) → (at_ : Location) → List String → Except Obstacle Location
  | 0 => t.walkWith final fun _ _ => .error .tooManyLinks
  | links + 1 => t.walkWith final (walk t final links)

end Tree

/-- A tree of files seen from a directory in it. -/
structure Disk where
  tree : Tree
  /-- The directory at which relative paths start. -/
  here : Location
  deriving Repr, Inhabited

namespace Disk

/-- The location at which a path starts. -/
def start (d : Disk) (p : Path) : Location := if p.isAbsolute then [] else d.here

/-- The obstacle that the text of a path is by itself, if it is one. -/
def textObstacle? (p : Path) : Option Obstacle :=
  if p.parts.any fun part => part.toList.contains '\x00' then some .embeddedNull
  else if maxPathBytes ≤ Text.Utf8.size p.toString then some .nameTooLong
  else none

/-- The location that a path leads to. -/
def locate (d : Disk) (final : Bool) (p : Path) : Except Obstacle Location :=
  match textObstacle? p with
  | some why => .error why
  | none => d.tree.walk final maxLinks (d.start p) p.parts

/-- The node that a path leads to, links followed. -/
def node (d : Disk) (p : Path) : Except Obstacle Node :=
  match d.locate true p with
  | .error why => .error why
  | .ok at_ =>
    match d.tree.get? at_ with
    | some node => .ok node
    | none => .error .notFound

/-- Whether the node at a path satisfies `test`; some obstacles mean that it does not, others
    are faults. -/
def test (d : Disk) (test : Node → Bool) (p : Path) : Except Fault Bool :=
  match d.node p with
  | .ok node => .ok (test node)
  | .error why => if why.meansAbsent then .ok false else .error (.obstacle why p)

/-- Whether anything is at a path. -/
def exists? (d : Disk) (p : Path) : Except Fault Bool := d.test (fun _ => true) p

/-- Whether a directory is at a path. -/
def isDirectory? (d : Disk) (p : Path) : Except Fault Bool := d.test Node.isDirectory p

/-- Whether a regular file is at a path. -/
def isFile? (d : Disk) (p : Path) : Except Fault Bool := d.test Node.isFile p

/-- Whether a regular file is at a path, every obstacle meaning that it is not. -/
def hasFile (d : Disk) (p : Path) : Bool :=
  match d.node p with
  | .ok node => node.isFile
  | .error _ => false

/-- The content of the file at a path. -/
def read (d : Disk) (p : Path) : Except Fault Content :=
  match d.node p with
  | .error why => .error (.obstacle why p)
  | .ok .directory => .error (.obstacle .isDirectory p)
  | .ok (.file content) => .ok content
  | .ok (.link _) => .error (.obstacle .tooManyLinks p)

/-- The text that a content spells, line ends unified. -/
def contentText : Content → Except Fault (List Char)
  | .text s => .ok (Text.unifyLines s.toList)
  | .bytes bs =>
    match Text.Utf8.decode bs with
    | .ok cs => .ok (Text.unifyLines cs)
    | .error f => .error (.notText f)
  | .archive _ => .error (.notText ⟨10, 1, 0x80, .invalidStart⟩)
  | .plugin _ => .ok []

/-- The text of the file at a path, line ends unified. -/
def readText (d : Disk) (p : Path) : Except Fault (List Char) :=
  match d.read p with
  | .ok content => contentText content
  | .error f => .error f

/-- The directory and the name under which a new node at a path would be entered, or the
    obstacle to entering it. -/
def entry (d : Disk) (p : Path) : Except Obstacle Location :=
  match textObstacle? p with
  | some why => .error why
  | none =>
    match d.tree.walk true maxLinks (d.start p) p.parts.dropLast with
    | .error why => .error why
    | .ok at_ =>
      if !d.tree.isDirectory at_ then .error .notDirectory
      else if p.parts = [] ∨ p.name = ".." then .error .alreadyExists
      else if maxNameBytes < Text.Utf8.size p.name then .error .nameTooLong
      else if (d.tree.get? (at_ ++ [p.name])).isSome then .error .alreadyExists
      else .ok (at_ ++ [p.name])

/-- The disk with a new node at a path that was free. -/
def add (d : Disk) (p : Path) (node : Node) : Except Fault Disk :=
  match d.entry p with
  | .ok at_ => .ok { d with tree := d.tree.insert at_ node }
  | .error why => .error (.obstacle why p)

/-- A directory at the path is enough, whatever else kept it from being made. -/
def settle (d : Disk) (p : Path) (fault : Fault) : Except Fault Unit × Disk :=
  match d.isDirectory? p with
  | .ok true => (.ok (), d)
  | .ok false => (.error fault, d)
  | .error f => (.error f, d)

/-- Makes a directory whose parent is there; one that exists already is fine. -/
def makeDirectory (d : Disk) (p : Path) : Except Fault Unit × Disk :=
  match d.add p .directory with
  | .ok d => (.ok (), d)
  | .error (.obstacle .notFound p) => (.error (.obstacle .notFound p), d)
  | .error fault => d.settle p fault

/-- Makes a directory and the missing ones above it, at most `limit` of them.  What was made
    before a fault stays. -/
def makeDirectories (d : Disk) (p : Path) : (limit : Nat) → Except Fault Unit × Disk
  | 0 => d.makeDirectory p
  | limit + 1 =>
    match d.add p .directory with
    | .ok d => (.ok (), d)
    | .error (.obstacle .notFound q) =>
      if p.parent = p then (.error (.obstacle .notFound q), d)
      else
        match d.makeDirectories p.parent limit with
        | (.ok (), d) => d.makeDirectory p
        | failed => failed
    | .error fault => d.settle p fault

/-- Writes a new file and makes the directories above it.  A file that exists is never
    overwritten. -/
def writeNew (d : Disk) (p : Path) (content : Content) : Except Fault Unit × Disk :=
  match d.makeDirectories p.parent p.parts.length with
  | (.error fault, d) => (.error fault, d)
  | (.ok (), d) =>
    match d.add p (.file content) with
    | .ok d => (.ok (), d)
    | .error fault => (.error fault, d)

end Disk

end Scaffold.Files
