/-!
# Qualified names

A qualified name is a text of segments separated by dots.  A back-quote opens a quoted span in
which dots do not separate.  The last segment names a type, the others its package.
-/

namespace Scaffold.Scala.QualifiedName

/-- Whether a dot stands anywhere behind the first back-quote. -/
def hasDotAfterQuote (name : List Char) : Bool := (name.dropWhile (· != '\x60')).contains '.'

/-- The parts of a text between the separators that stand outside quoted spans; `quoted` says
    whether the text begins inside one.  Without a separator there is one part. -/
def splitFrom (separator : Option Char) (quoted : Bool) : List Char → List (List Char)
  | [] => [[]]
  | c :: cs =>
    let quoted := quoted != (c == '\x60')
    if some c = separator ∧ quoted = false then [] :: splitFrom separator quoted cs
    else
      match splitFrom separator quoted cs with
      | part :: parts => (c :: part) :: parts
      | [] => [[c]]

/-- The parts of a name between its separators. -/
def splitOn (separator : Option Char) (name : List Char) : List (List Char) :=
  splitFrom separator false name

/-- The segments of a name. -/
def segments (name : List Char) : List (List Char) := splitOn (some '.') name

/-- The last of the parts, the type name. -/
def typeSegment (name : List Char) : List Char := (segments name).getLastD []

/-- The parts before the last, the package. -/
def packageSegments (name : List Char) : List (List Char) := (segments name).dropLast

/-- The text before the last dot and the text behind it; without a dot, all is behind. -/
def cutAtLastDot (name : List Char) : List Char × List Char :=
  let behind := (name.reverse.takeWhile (· != '.')).reverse
  (name.take (name.length - behind.length - 1), behind)

/-- The text with every dot turned into a slash. -/
def dotsToSlashes (name : List Char) : List Char := name.map fun c => if c = '.' then '/' else c

/-- The path of a type's source file below its source root. -/
def relativePath (name : List Char) : List Char := dotsToSlashes name ++ ".scala".toList

/-- The path of a type's compiled file below its output directory. -/
def classPath (name : List Char) : List Char := dotsToSlashes name ++ ".class".toList

/-- The variables that a template may use: the package and the type, unless they are empty. -/
def bindings (name : String) : List (String × String) :=
  let (package, type) := cutAtLastDot name.toList
  [("package_name", String.ofList package), ("type_name", String.ofList type)].filter (·.2 ≠ "")

theorem splitFrom_ne_nil (separator : Option Char) (quoted : Bool) (cs : List Char) :
    splitFrom separator quoted cs ≠ [] := by
  cases cs with
  | nil => simp [splitFrom]
  | cons c cs =>
    simp only [splitFrom]
    split
    · exact List.cons_ne_nil _ _
    · split <;> exact List.cons_ne_nil _ _

end Scaffold.Scala.QualifiedName
