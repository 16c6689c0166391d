/-!
# General categories

Every character has exactly one general category.  Identifier grammars and printability
are stated in terms of these categories, so the type lists all of them; which character has
which category is the matter of `Scaffold.Text.Category.Table`.
-/

namespace Scaffold.Text

/-- The general categories of the Unicode standard. -/
inductive Category where
  | uppercaseLetter
  | lowercaseLetter
  | titlecaseLetter
  | modifierLetter
  | otherLetter
  | nonspacingMark
  | spacingMark
  | enclosingMark
  | decimalNumber
  | letterNumber
  | otherNumber
  | connectorPunctuation
  | dashPunctuation
  | openPunctuation
  | closePunctuation
  | initialPunctuation
  | finalPunctuation
  | otherPunctuation
  | mathSymbol
  | currencySymbol
  | modifierSymbol
  | otherSymbol
  | spaceSeparator
  | lineSeparator
  | paragraphSeparator
  | control
  | format
  | surrogate
  | privateUse
  | unassigned
  deriving DecidableEq, Repr, Inhabited

namespace Category

/-- All categories, in the order in which the tables number them. -/
def all : Array Category :=
  #[uppercaseLetter, lowercaseLetter, titlecaseLetter, modifierLetter, otherLetter,
    nonspacingMark, spacingMark, enclosingMark, decimalNumber, letterNumber, otherNumber,
    connectorPunctuation, dashPunctuation, openPunctuation, closePunctuation,
    initialPunctuation, finalPunctuation, otherPunctuation, mathSymbol, currencySymbol,
    modifierSymbol, otherSymbol, spaceSeparator, lineSeparator, paragraphSeparator,
    control, format, surrogate, privateUse, unassigned]

/-- The category with the given number; numbers out of range stand for `unassigned`. -/
def ofCode (n : Nat) : Category := all.getD n unassigned

/-- Letters and letter numbers, the characters that may open a name. -/
def isLetter : Category → Bool
  | uppercaseLetter | lowercaseLetter | titlecaseLetter | modifierLetter | otherLetter
  | letterNumber => true
  | _ => false

/-- Letters proper and numbers of every kind. -/
def isAlphanumeric : Category → Bool
  | uppercaseLetter | lowercaseLetter | titlecaseLetter | modifierLetter | otherLetter
  | decimalNumber | letterNumber | otherNumber => true
  | _ => false

/-- Categories whose characters have no visible form of their own and are escaped when a
    text is quoted. -/
def isUnprintable : Category → Bool
  | control | format | surrogate | privateUse | unassigned | lineSeparator
  | paragraphSeparator | spaceSeparator => true
  | _ => false

end Category

end Scaffold.Text
