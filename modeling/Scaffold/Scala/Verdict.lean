import Scaffold.Scala.Ident
import Scaffold.Scala.QualifiedName

/-!
# Verdicts on names

A name is judged from left to right: whether there is one, the rule on quoted dots, whether there
is a type segment, every package segment, and the type segment last.  The first objection wins.
A name without objection may still collide with what already exists.
-/

namespace Scaffold.Scala

/-- Why a name is rejected. -/
inductive Rejection where
  | noName
  | dotAfterQuote
  | noTypeName
  | invalidPackage (segment : String)
  | invalidType (name : String)
  | fileExists
  | typeExists
  | notScalaProject
  deriving DecidableEq, Repr

namespace Rejection

/-- What kind of objection a rejection is. -/
inductive Kind where
  | invalidInput
  | collision
  | notScalaProject
  deriving DecidableEq, Repr

/-- The kind of a rejection. -/
def kind : Rejection → Kind
  | .fileExists | .typeExists => .collision
  | .notScalaProject => .notScalaProject
  | _ => .invalidInput

/-- The words for a rejection. -/
def message : Rejection → String
  | .noName => "No file path specified"
  | .dotAfterQuote => "Dots after a back-quote is not supported for Scala types in the file wizard"
  | .noTypeName => "No type name specified"
  | .invalidPackage segment => "'" ++ segment ++ "' is not a valid package name"
  | .invalidType name => "'" ++ name ++ "' is not a valid type name"
  | .fileExists => "File already exists"
  | .typeExists => "Type already exists"
  | .notScalaProject => "Not a Scala project"

end Rejection

/-- The objection to the segments of a name, if there is one. -/
def segmentsObjection? (name : List Char) : Option Rejection :=
  match (QualifiedName.packageSegments name).find? (!isPackageIdent ·) with
  | some segment => some (.invalidPackage (String.ofList segment))
  | none =>
    if isTypeIdent (QualifiedName.typeSegment name) then none
    else some (.invalidType (String.ofList (QualifiedName.typeSegment name)))

/-- The objection to a name as a fully qualified type, if there is one. -/
def typeObjection? (name : List Char) : Option Rejection :=
  if QualifiedName.hasDotAfterQuote name then some .dotAfterQuote
  else if QualifiedName.typeSegment name = [] then some .noTypeName
  else segmentsObjection? name

/-- The objection to a name, if there is one. -/
def nameObjection? (name : List Char) : Option Rejection :=
  if name = [] then some .noName else typeObjection? name

end Scaffold.Scala
