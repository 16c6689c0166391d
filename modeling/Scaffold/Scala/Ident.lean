import Scaffold.Scala.Tokens

/-!
# Names of packages and types

A package segment follows the grammar of Java identifiers and avoids the reserved words of both
languages.  A type name is whatever reads as exactly one identifier token, apart from Scala's
reserved words; the reserved words of Java are allowed.
-/

namespace Scaffold.Scala

open Text

/-- Whether a character may open a Java identifier. -/
def isJavaStart (c : Char) : Bool :=
  let k := category c
  k.isLetter || k == .currencySymbol || k == .connectorPunctuation

/-- Whether a character may stand inside a Java identifier: besides the opening ones, digits,
    marks, format characters and the controls that Java ignores. -/
def isJavaPart (c : Char) : Bool :=
  let k := category c
  let n := c.toNat
  isJavaStart c || k == .decimalNumber || k == .nonspacingMark || k == .spacingMark ||
    k == .format || n ≤ 0x08 || (0x0e ≤ n && n ≤ 0x1b) || (0x7f ≤ n && n ≤ 0x9f)

/-- Whether a text is a Java identifier, reserved or not. -/
def isJavaIdent : List Char → Bool
  | [] => false
  | c :: cs => isJavaStart c && cs.all isJavaPart

/-- Whether a text may be a segment of a package. -/
def isPackageIdent (segment : List Char) : Bool :=
  isJavaIdent segment && !(isScalaKeyword segment || isJavaKeyword segment)

/-- Whether a text, trimmed, reads as exactly one identifier token. -/
def isSingleIdent (text : List Char) : Bool :=
  match tokenize (trim text) with
  | .ok [token, _] => token.kind.isIdentifier
  | _ => false

/-- Whether a text may be the name of a type. -/
def isTypeIdent (text : List Char) : Bool :=
  isSingleIdent text && !isScalaKeyword (trim text)

/-- Every character that may open a Java identifier may also stand inside one. -/
theorem isJavaPart_of_isJavaStart {c : Char} (h : isJavaStart c = true) :
    isJavaPart c = true := by
  simp [isJavaPart, h]

end Scaffold.Scala
