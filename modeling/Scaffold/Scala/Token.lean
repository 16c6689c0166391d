/-!
# Tokens

The classes of Scala tokens that matter for telling names from everything else, and tokens as
pieces of a source text with their place in it.
-/

namespace Scaffold.Scala

/-- The class of a token. -/
inductive TokenKind where
  /-- A name that begins with a lower-case letter. -/
  | varId
  /-- Any other name: upper-case, operator or quoted. -/
  | otherId
  /-- A reserved word or operator. -/
  | keyword
  | integerLiteral
  | floatingPointLiteral
  | characterLiteral
  | stringLiteral
  | symbolLiteral
  | leftParen
  | rightParen
  | leftBracket
  | rightBracket
  | leftBrace
  | rightBrace
  | dot
  | comma
  | semicolon
  | endOfText
  deriving DecidableEq, Repr, Inhabited

/-- Whether tokens of a class are names. -/
def TokenKind.isIdentifier : TokenKind → Bool
  | .varId | .otherId => true
  | _ => false

/-- A token: its class, its text, and the number of characters before it. -/
structure Token where
  kind : TokenKind
  text : List Char
  offset : Nat
  deriving DecidableEq, Repr

/-- The same token `distance` characters further on. -/
def Token.shift (distance : Nat) (t : Token) : Token := { t with offset := t.offset + distance }

/-- What can be wrong with a source text. -/
inductive LexProblem where
  | unclosedComment
  | unclosedQuotedIdentifier
  | emptyQuotedIdentifier
  | malformedInteger
  | malformedFloatingPoint
  | unclosedMultiLineString
  | unclosedString
  | emptyCharacter
  | unclosedCharacter
  | unclosedEscape
  | malformedUnicodeEscape
  | invalidEscape (c : Char)
  | illegalCharacter (c : Char)
  deriving DecidableEq, Repr

/-- A problem with the token or comment that begins at an offset. -/
structure LexFault where
  problem : LexProblem
  offset : Nat
  deriving DecidableEq, Repr

/-- The same fault `distance` characters further on. -/
def LexFault.shift (distance : Nat) (f : LexFault) : LexFault :=
  { f with offset := f.offset + distance }

end Scaffold.Scala
