import Scaffold.Text.Blank
import Scaffold.Text.Category.Table

/-!
# Declarations in sources

Which types a source declares is read off its lines without reading it as tokens: package clauses
stand alone on their lines, chained ones are joined, and a type declaration begins at the margin.
White space inside a clause or a declaration may contain line ends.
-/

namespace Scaffold.Scala.Declaration

open Text

/-- The text behind a word at its front, if it begins with it. -/
def dropWord? : (word cs : List Char) → Option (List Char)
  | [], cs => some cs
  | _ :: _, [] => none
  | w :: word, c :: cs => if w = c then dropWord? word cs else none

/-- The text behind at least one white space character. -/
def dropBlanks1? : List Char → Option (List Char)
  | c :: cs => if isBlank c then some (cs.dropWhile isBlank) else none
  | [] => none

/-- The longest white space at the front that ends where a line ends, and the text behind it. -/
def cutToLineEnd? : List Char → Option (List Char × List Char)
  | [] => some ([], [])
  | c :: cs =>
    if isBlank c then
      match cutToLineEnd? cs with
      | some (blanks, rest) => some (c :: blanks, rest)
      | none => if c = '\n' then some ([], c :: cs) else none
    else none

/-- What may close a package clause: white space with an optional semicolon, up to a line end. -/
def clauseEnd? (cs : List Char) : Option (List Char × List Char) :=
  match cs.dropWhile isBlank with
  | ';' :: rest =>
    match cutToLineEnd? rest with
    | some found => some found
    | none => cutToLineEnd? cs
  | _ => cutToLineEnd? cs

/-- The package named by a clause at the front of a text, whether the clause ends with a line
    end, and the text behind it. -/
def packageClause? (cs : List Char) : Option (List Char × Bool × List Char) := do
  let cs ← dropWord? "package".toList (cs.dropWhile isBlank)
  let cs ← dropBlanks1? cs
  let isNameChar := fun c => isWordChar c || c == '.'
  let name := cs.takeWhile isNameChar
  if name.isEmpty then none
  else
    let (blanks, rest) ← clauseEnd? (cs.dropWhile isNameChar)
    return (name, blanks.getLast? == some '\n', rest)

/-- The words that may stand before the keyword of a declaration. -/
def modifiers : List String :=
  ["abstract", "final", "sealed", "implicit", "case", "private", "protected"]

/-- The keywords of type declarations. -/
def typeKeywords : List String := ["class", "trait", "object"]

/-- The text behind one of `words` and the white space after it. -/
def dropOneOf? (words : List String) (cs : List Char) : Option (List Char) :=
  words.findSome? fun w => (dropWord? w.toList cs).bind dropBlanks1?

/-- The text behind at most `limit` modifiers. -/
def dropModifiers : (limit : Nat) → List Char → List Char
  | 0, cs => cs
  | limit + 1, cs =>
    match dropOneOf? modifiers cs with
    | some rest => dropModifiers limit rest
    | none => cs

/-- The type declared at the front of a text, and the text behind its name. -/
def typeDeclaration? (cs : List Char) : Option (List Char × Bool × List Char) := do
  let cs ← dropOneOf? typeKeywords (dropModifiers cs.length cs)
  let isNameChar := fun c => isWordChar c || c == '$'
  let name := cs.takeWhile isNameChar
  if name.isEmpty then none else return (name, false, cs.dropWhile isNameChar)

/-- All names that `find?` finds at beginnings of lines, each search going on behind the one
    before; `fuel` is the length of the text. -/
def findAll (find? : List Char → Option (List Char × Bool × List Char)) :
    (fuel : Nat) → (atLineStart : Bool) → List Char → List (List Char)
  | 0, _, _ => []
  | _ + 1, _, [] => []
  | fuel + 1, atLineStart, c :: cs =>
    match (if atLineStart then find? (c :: cs) else none) with
    | some (name, atLineStart, rest) => name :: findAll find? fuel atLineStart rest
    | none => findAll find? fuel (c == '\n') cs

/-- The package of a source: its clauses, joined by dots. -/
def packageOf (source : List Char) : List Char :=
  ['.'].intercalate (findAll packageClause? source.length true source)

/-- The names of the types that a source declares at the margin. -/
def typesOf (source : List Char) : List (List Char) :=
  findAll typeDeclaration? source.length true source

/-- The fully qualified names of the types that a source declares, in order of appearance. -/
def qualifiedTypes (source : List Char) : List String :=
  let package := packageOf source
  let start := if package.isEmpty then [] else package ++ ['.']
  (typesOf source).map fun name => String.ofList (start ++ name)

end Scaffold.Scala.Declaration
