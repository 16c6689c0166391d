import Scaffold.Scala.Keyword
import Scaffold.Scala.Token
import Scaffold.Text.Blank
import Scaffold.Text.Quoted

/-!
# Reading tokens

Every scanner takes its lexeme from the front of a text and returns it with the text behind it,
so that the two together are the text it was given; `cutToken_append` says so for the scanner of
tokens as a whole.  White space and comments between tokens are skipped.  Nothing is repaired:
the first malformed token or comment ends the reading with a fault at its beginning.
-/

namespace Scaffold.Scala

open Text

/-- A lexeme and the text behind it. -/
abbrev Cut := List Char × List Char

/-- Whether a character is a decimal digit. -/
def isDigit (c : Char) : Bool := '0' ≤ c && c ≤ '9'

/-- Whether a character is a hexadecimal digit. -/
def isHexDigit (c : Char) : Bool :=
  isDigit c || ('a' ≤ c && c ≤ 'f') || ('A' ≤ c && c ≤ 'F')

/-- Whether a character may open a plain name. -/
def isIdentStart (c : Char) : Bool := c == '_' || c == '$' || isLetter c

/-- Whether a character may stand inside a plain name. -/
def isIdentPart (c : Char) : Bool := isIdentStart c || category c == .decimalNumber

/-- The operator characters of ASCII. -/
def operatorChars : List Char :=
  ['!', '#', '%', '&', '*', '+', '-', '/', ':', '<', '=', '>', '?', '@', '\\', '^', '|', '~']

/-- Whether a character may stand in an operator name. -/
def isOperatorChar (c : Char) : Bool :=
  operatorChars.contains c || category c == .mathSymbol || category c == .otherSymbol

/-- Whether a character ends a line. -/
def isLineEnd (c : Char) : Bool := c == '\r' || c == '\n'

/-- The longest beginning whose characters satisfy `p`, and the text behind it. -/
def cutWhile (p : Char → Bool) (cs : List Char) : Cut := (cs.takeWhile p, cs.dropWhile p)

theorem cutWhile_append (p : Char → Bool) (cs : List Char) :
    (cutWhile p cs).1 ++ (cutWhile p cs).2 = cs := List.takeWhile_append_dropWhile

/-- The text behind the mark that closes a comment inside which `depth` further comments are
    open. -/
def afterComment : (depth : Nat) → List Char → Option (List Char)
  | depth, '/' :: '*' :: cs => afterComment (depth + 1) cs
  | 0, '*' :: '/' :: cs => some cs
  | depth + 1, '*' :: '/' :: cs => afterComment depth cs
  | depth, _ :: cs => afterComment depth cs
  | _, [] => none

theorem length_afterComment {depth : Nat} {cs rest : List Char}
    (h : afterComment depth cs = some rest) : rest.length < cs.length := by
  fun_induction afterComment depth cs with
  | case1 depth cs ih => have := ih h; simp only [List.length_cons]; omega
  | case2 cs => cases h; simp only [List.length_cons]; omega
  | case3 depth cs ih => have := ih h; simp only [List.length_cons]; omega
  | case4 depth c cs _ _ _ ih => have := ih h; simp only [List.length_cons]; omega
  | case5 => simp at h

/-- Skips white space and comments.  The error is the text from an unclosed comment on. -/
def skipGap : List Char → Except (List Char) (List Char)
  | [] => .ok []
  | '/' :: '/' :: cs => skipGap (cs.dropWhile (· != '\n'))
  | '/' :: '*' :: cs =>
    match _h : afterComment 0 cs with
    | some rest => skipGap rest
    | none => .error ('/' :: '*' :: cs)
  | c :: cs => if isBlank c then skipGap cs else .ok (c :: cs)
  termination_by cs => cs.length
  decreasing_by
    · have := (List.dropWhile_sublist (l := cs) (· != '\n')).length_le
      simp
      omega
    · have := length_afterComment _h
      simp
      omega
    · simp

theorem length_skipGap {cs rest : List Char} (h : skipGap cs = .ok rest) :
    rest.length ≤ cs.length := by
  fun_induction skipGap cs with
  | case1 => cases h; simp
  | case2 cs ih =>
    have := ih h
    have := (List.dropWhile_sublist (l := cs) (· != '\n')).length_le
    simp
    omega
  | case3 cs rest' h' ih =>
    have := ih h
    have := length_afterComment h'
    simp
    omega
  | case4 => cases h
  | case5 c cs _ _ _ ih => have := ih h; simp only [List.length_cons]; omega
  | case6 => cases h; simp

/-- The class of a plain name. -/
def wordKind (word : List Char) : TokenKind :=
  if isScalaKeyword word then .keyword
  else
    match word with
    | c :: _ => if category c = .lowercaseLetter then .varId else .otherId
    | [] => .otherId

/-- The class of an operator name. -/
def operatorKind (word : List Char) : TokenKind :=
  if isScalaKeyword word then .keyword else .otherId

/-- A plain name that begins with `first`: further letters and digits, and operator characters
    after a final underscore. -/
def cutWord (first : Char) (cs : List Char) : Cut :=
  let (word, rest) := cutWhile isIdentPart cs
  if (first :: word).getLast? = some '_' then
    let (operator, rest) := cutWhile isOperatorChar rest
    (first :: word ++ operator, rest)
  else (first :: word, rest)

/-- An operator name: operator characters up to the beginning of a comment. -/
def cutOperator : List Char → Cut
  | [] => ([], [])
  | c :: cs =>
    if !isOperatorChar c then ([], c :: cs)
    else if c = '/' ∧ (cs.head? = some '/' ∨ cs.head? = some '*') then ([], c :: cs)
    else
      let (word, rest) := cutOperator cs
      (c :: word, rest)

/-- A quoted name, from behind its opening quote: everything up to a quote on the same line. -/
def cutQuotedName (cs : List Char) : Except LexProblem (TokenKind × Cut) :=
  match cutWhile (fun c => c != '\x60' && !isLineEnd c) cs with
  | ([], '\x60' :: _) => .error .emptyQuotedIdentifier
  | (c :: name, '\x60' :: rest) =>
    let kind := if category c = .lowercaseLetter then .varId else .otherId
    .ok (kind, '\x60' :: c :: name ++ ['\x60'], rest)
  | _ => .error .unclosedQuotedIdentifier

/-- The character at the front, if it is one of `choices`. -/
def cutOne (choices : List Char) : List Char → Cut
  | c :: cs => if choices.contains c then ([c], cs) else ([], c :: cs)
  | [] => ([], [])

/-- The digits of a hexadecimal number behind its mark, and a suffix. -/
def cutHexDigits (mark : Char) (cs : List Char) : Except LexProblem (TokenKind × Cut) :=
  let (digits, rest) := cutWhile isHexDigit cs
  if digits.isEmpty then .error .malformedInteger
  else
    let (suffix, rest) := cutOne ['l', 'L'] rest
    .ok (.integerLiteral, '0' :: mark :: digits ++ suffix, rest)

/-- A point followed by digits, if there is one. -/
def cutFraction : List Char → Cut
  | '.' :: d :: cs =>
    if isDigit d then
      let (digits, rest) := cutWhile isDigit cs
      ('.' :: d :: digits, rest)
    else ([], '.' :: d :: cs)
  | cs => ([], cs)

/-- An exponent, if there is one; its mark must be followed by digits. -/
def cutExponent (cs : List Char) : Except LexProblem Cut :=
  let (mark, rest) := cutOne ['e', 'E'] cs
  if mark.isEmpty then .ok ([], cs)
  else
    let (sign, rest) := cutOne ['+', '-'] rest
    let (digits, rest) := cutWhile isDigit rest
    if digits.isEmpty then .error .malformedFloatingPoint else .ok (mark ++ sign ++ digits, rest)

/-- A decimal number: digits, an optional fraction and exponent, and a suffix. -/
def cutDecimal (cs : List Char) : Except LexProblem (TokenKind × Cut) :=
  let (whole, rest) := cutWhile isDigit cs
  let (fraction, rest) := cutFraction rest
  match cutExponent rest with
  | .error p => .error p
  | .ok (exponent, rest) =>
    let number := whole ++ fraction ++ exponent
    match cutOne ['f', 'F', 'd', 'D'] rest with
    | (c :: suffix, rest) => .ok (.floatingPointLiteral, number ++ c :: suffix, rest)
    | ([], rest) =>
      if fraction.isEmpty && exponent.isEmpty then
        let (suffix, rest) := cutOne ['l', 'L'] rest
        .ok (.integerLiteral, number ++ suffix, rest)
      else .ok (.floatingPointLiteral, number, rest)

/-- A number. -/
def cutNumber : List Char → Except LexProblem (TokenKind × Cut)
  | '0' :: c :: cs => if c = 'x' ∨ c = 'X' then cutHexDigits c cs else cutDecimal ('0' :: c :: cs)
  | cs => cutDecimal cs

/-- The part of an escape behind its backslash. -/
def cutEscape : List Char → Except LexProblem Cut
  | [] => .error .unclosedEscape
  | c :: cs =>
    if c = 'u' then
      let (marks, rest) := cutWhile (· == 'u') cs
      let digits := rest.take 4
      if digits.length = 4 ∧ digits.all isHexDigit then .ok (c :: marks ++ digits, rest.drop 4)
      else .error .malformedUnicodeEscape
    else if ['b', 't', 'n', 'f', 'r', '"', '\'', '\\'].contains c || ('0' ≤ c && c ≤ '7') then
      .ok ([c], cs)
    else .error (.invalidEscape c)

theorem cutEscape_append {cs : List Char} {cut : Cut} (h : cutEscape cs = .ok cut) :
    cut.1 ++ cut.2 = cs := by
  unfold cutEscape at h
  split at h
  · cases h
  · rename_i c cs
    split at h
    · rename_i hc
      simp only at h
      split at h
      · cases h
        simp [cutWhile, List.takeWhile_append_dropWhile]
      · cases h
    · split at h
      · cases h; simp
      · cases h

/-- The rest of a string literal behind its opening quote, with the closing one. -/
def cutStringBody : List Char → Except LexProblem Cut
  | [] => .error .unclosedString
  | c :: cs =>
    if isLineEnd c then .error .unclosedString
    else if c = '\\' then
      match _h : cutEscape cs with
      | .error p => .error p
      | .ok (escape, rest) =>
        (cutStringBody rest).map fun (body, rest) => (c :: escape ++ body, rest)
    else if c = '"' then .ok ([c], cs)
    else (cutStringBody cs).map fun (body, rest) => (c :: body, rest)
  termination_by cs => cs.length
  decreasing_by
    · have := congrArg List.length (cutEscape_append _h)
      simp at this ⊢
      omega
    · simp

/-- The rest of a multi-line string behind its opening quotes: everything up to the first three
    quotes in a row, and the further quotes that follow them. -/
def cutMultiLineBody : List Char → Option Cut
  | '"' :: '"' :: '"' :: cs =>
    let (quotes, rest) := cutWhile (· == '"') cs
    some ('"' :: '"' :: '"' :: quotes, rest)
  | c :: cs => (cutMultiLineBody cs).map fun (body, rest) => (c :: body, rest)
  | [] => none

/-- A string literal, from behind its first quote. -/
def cutString (cs : List Char) : Except LexProblem (TokenKind × Cut) :=
  match cs with
  | '"' :: '"' :: rest =>
    match cutMultiLineBody rest with
    | some (body, rest) => .ok (.stringLiteral, '"' :: '"' :: '"' :: body, rest)
    | none => .error .unclosedMultiLineString
  | _ => (cutStringBody cs).map fun (body, rest) => (.stringLiteral, '"' :: body, rest)

/-- The closing quote of a character literal that begins with `opened`. -/
def closeCharacter (opened : List Char) : List Char → Except LexProblem (TokenKind × Cut)
  | '\'' :: rest => .ok (.characterLiteral, opened ++ ['\''], rest)
  | _ => .error .unclosedCharacter

/-- A character literal, from behind its opening quote. -/
def cutCharacter : List Char → Except LexProblem (TokenKind × Cut)
  | [] => .error .emptyCharacter
  | c :: cs =>
    if isLineEnd c || c == '\'' then .error .emptyCharacter
    else if c = '\\' then
      match cutEscape cs with
      | .error p => .error p
      | .ok (escape, rest) => closeCharacter ('\'' :: c :: escape) rest
    else closeCharacter ['\'', c] cs

/-- A symbol or a character literal, from behind its opening quote: a name is a symbol unless
    a quote follows its first character. -/
def cutSingleQuoted : List Char → Except LexProblem (TokenKind × Cut)
  | [] => cutCharacter []
  | c :: cs =>
    if isIdentStart c && cs.head? != some '\'' then
      let (name, rest) := cutWhile isIdentPart (c :: cs)
      .ok (.symbolLiteral, '\'' :: name, rest)
    else cutCharacter (c :: cs)

/-- The class of a delimiter. -/
def delimiterKind? : Char → Option TokenKind
  | '(' => some .leftParen
  | ')' => some .rightParen
  | '[' => some .leftBracket
  | ']' => some .rightBracket
  | '\x7b' => some .leftBrace
  | '\x7d' => some .rightBrace
  | '.' => some .dot
  | ',' => some .comma
  | ';' => some .semicolon
  | _ => none

/-- Whether a number begins with `c` before `cs`. -/
def startsNumber (c : Char) (cs : List Char) : Bool :=
  isDigit c || (c == '.' && (cs.head?.map isDigit).getD false)

/-- The token at the front of `c :: cs`. -/
def cutToken (c : Char) (cs : List Char) : Except LexProblem (TokenKind × Cut) :=
  if c = '\x60' then cutQuotedName cs
  else if isIdentStart c then
    let cut := cutWord c cs
    .ok (wordKind cut.1, cut)
  else if startsNumber c cs then cutNumber (c :: cs)
  else if c = '"' then cutString cs
  else if c = '\'' then cutSingleQuoted cs
  else
    match delimiterKind? c with
    | some kind => .ok (kind, [c], cs)
    | none =>
      if isOperatorChar c then
        let cut := cutOperator (c :: cs)
        .ok (operatorKind cut.1, cut)
      else .error (.illegalCharacter c)

end Scaffold.Scala
