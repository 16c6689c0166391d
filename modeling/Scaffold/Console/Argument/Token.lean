import Scaffold.Text.Category.Table
import Scaffold.Text.Quoted

/-!
# Tokens of argument lists

Arguments are written as names, numbers, texts between quotes, and marks.  Inside brackets a line
may end anywhere.  A token is taken from the front of a text; what cannot be a token is a problem.
-/

namespace Scaffold.Console.Argument

/-- What is wrong with an argument list. -/
inductive Problem where
  | neverClosed (bracket : Char)
  | unmatched (bracket : Char)
  | mismatched (closing opening : Char) (line : Option Nat)
  | tooManyBrackets
  | openText (line : Nat)
  | openLongText (line : Nat)
  | badCharacter (c : Char)
  | hiddenCharacter (c : Char)
  | badNumber (kind : String)
  | badDigit (digit : Char) (kind : String)
  | leadingZeros
  | characterAfterBackslash
  | endAfterBackslash
  | nullCharacter
  | wideCharacterInBytes
  | mixedTexts
  | badEscape (first last : Nat) (reason : String)
  | badByteEscape (position : Nat)
  | badForm (reason : String)
  | badIndent
  | badSyntax
  | missingComma
  | missingElse
  | missingCall (name : String)
  | assignment
  | assignmentTo (what : String)
  | namedAssignmentTo (what : String)
  | callAssignment
  | fixedAssignment (word : String)
  | orderOfArguments (unpacking : Bool)
  | bareComprehension
  | starred
  | starAlone
  | unpackedLoop
  | unpackedEntryLoop
  | bareTarget
  | doubleStarred
  | missingColon
  | missingValue
  | starredValue
  /-- An expression stands where a value has to be. -/
  | noValue
  /-- Something is missing where a value has to be. -/
  | nothing
  /-- A member of a set or a key of a map is a collection that may change. -/
  | unhashable (kind : String)
  deriving DecidableEq, Repr

/-- A token without its place. -/
inductive Lexeme where
  | name (text : String)
  | number (imaginary : Bool)
  | text (bytes formatted : Bool) (problem : Option Problem)
  | mark (text : String)
  | lineEnd
  | indent
  | finish
  /-- No token begins here; the problem is told only to who asks for one.  `isOpen` is the innermost
      open bracket and its line. -/
  | broken (problem : Problem) (isOpen : Option (Char × Nat))
  deriving DecidableEq, Repr

/-- A token, the number of brackets that are open behind it, and the line that it begins in. -/
structure Token where
  lexeme : Lexeme
  depth : Nat
  line : Nat
  deriving DecidableEq, Repr

/-- Whether a character may begin a name, as far as plain characters go; all others are looked at
    later. -/
def opensName (c : Char) : Bool := c.isAlpha || c == '_' || 128 ≤ c.toNat

/-- Whether a character may go on in a name, as far as plain characters go. -/
def continuesName (c : Char) : Bool := opensName c || c.isDigit

/-- Whether a character may begin a name. -/
def isNameStart (c : Char) : Bool :=
  (c == '_' || Text.isLetter c || [0x2118, 0x212e].contains c.toNat) &&
    !([0x37a, 0xe33, 0xeb3, 0xfdfa, 0xfdfb, 0xfe70, 0xfe72, 0xfe74, 0xfe76, 0xfe78, 0xfe7a, 0xfe7c,
      0xfe7e, 0xff9e, 0xff9f].contains c.toNat)

/-- Whether a character may go on in a name. -/
def isNamePart (c : Char) : Bool :=
  isNameStart c || [0xb7, 0x387, 0x1369, 0x136a, 0x136b, 0x136c, 0x136d, 0x136e, 0x136f, 0x1370,
    0x1371, 0x19da, 0xe33, 0xeb3, 0xff9e, 0xff9f].contains c.toNat ||
  match Text.category c with
  | .nonspacingMark | .spacingMark | .decimalNumber | .connectorPunctuation => true
  | _ => false

/-- The first character of a name that does not belong there. -/
def strayCharacter? : List Char → Option Char
  | [] => none
  | c :: cs => if isNameStart c then cs.find? fun d => !isNamePart d else some c

/-- The problem with a character that does not belong where it stands. -/
def characterProblem (c : Char) : Problem :=
  if Text.isPrintable c then .badCharacter c else .hiddenCharacter c

/-- A name, and the text behind it. -/
def cutName (cs : List Char) : Except Problem (Lexeme × List Char) :=
  let name := cs.takeWhile continuesName
  match strayCharacter? name with
  | some c => .error (characterProblem c)
  | none => .ok (.name (String.ofList name), cs.drop name.length)

/-- Whether a word that may stand directly behind a number begins here. -/
def followsNumber (cs : List Char) : Bool :=
  (["if", "in", "is"].any fun w => w.toList.isPrefixOf cs) ||
    ["and", "else", "for", "or", "not"].contains (String.ofList (cs.takeWhile continuesName))

/-- The end of a number: nothing that could belong to a name may follow, unless it is a word that
    may stand there. -/
def endNumber (kind : String) (imaginary : Bool) (cs : List Char) :
    Except Problem (Lexeme × List Char) :=
  if followsNumber cs then .ok (.number imaginary, cs)
  else
    match cs with
    | c :: _ =>
      if c.toNat < 128 && continuesName c then .error (.badNumber kind)
      else .ok (.number imaginary, cs)
    | [] => .ok (.number imaginary, cs)

/-- The text behind digits, which may be divided by single underscores; `fuel` is its length. -/
def skipDigits (isDigit : Char → Bool) (kind : String) :
    Nat → List Char → Except Problem (List Char)
  | 0, cs => .ok cs
  | fuel + 1, cs =>
    match cs.dropWhile isDigit with
    | '_' :: c :: rest =>
      if isDigit c then skipDigits isDigit kind fuel (c :: rest) else .error (.badNumber kind)
    | ['_'] => .error (.badNumber kind)
    | rest => .ok rest

/-- The text behind decimal digits. -/
def skipDecimals (cs : List Char) : Except Problem (List Char) :=
  skipDigits Char.isDigit "decimal" cs.length cs

/-- The rest of a number behind its exponent. -/
def cutImaginary (cs : List Char) : Except Problem (Lexeme × List Char) :=
  match cs with
  | 'j' :: rest => endNumber "imaginary" true rest
  | 'J' :: rest => endNumber "imaginary" true rest
  | _ => endNumber "decimal" false cs

/-- The rest of a number behind its fraction. -/
def cutExponent (cs : List Char) : Except Problem (Lexeme × List Char) :=
  match cs with
  | e :: rest =>
    if e == 'e' || e == 'E' then
      match rest with
      | sign :: digits =>
        if sign == '+' || sign == '-' then
          if (digits.head?.map Char.isDigit).getD false then do
            cutImaginary (← skipDecimals digits)
          else .error (.badNumber "decimal")
        else if sign.isDigit then do cutImaginary (← skipDecimals rest)
        else endNumber "decimal" false cs
      | [] => endNumber "decimal" false cs
    else cutImaginary cs
  | [] => cutImaginary cs

/-- The rest of a number behind its point. -/
def cutFraction (cs : List Char) : Except Problem (Lexeme × List Char) := do
  cutExponent (← skipDecimals cs)

/-- The rest of a number behind its whole part. -/
def cutPoint (cs : List Char) : Except Problem (Lexeme × List Char) :=
  match cs with
  | '.' :: rest => cutFraction rest
  | _ => cutExponent cs

/-- The digits of a number in another base than ten. -/
def cutBased (isDigit : Char → Bool) (kind : String) (cs : List Char) :
    Except Problem (Lexeme × List Char) := do
  let digits := match cs with
    | '_' :: rest => rest
    | _ => cs
  match digits with
  | c :: _ =>
    if isDigit c then
      let rest ← skipBased digits.length digits
      match rest.head? with
      | some d => if d.isDigit then .error (.badDigit d kind) else endNumber kind false rest
      | none => endNumber kind false rest
    else if c.isDigit then .error (.badDigit c kind)
    else .error (.badNumber kind)
  | [] => .error (.badNumber kind)
where
  /-- The text behind the digits. -/
  skipBased : Nat → List Char → Except Problem (List Char)
  | 0, cs => .ok cs
  | fuel + 1, cs =>
    match cs.dropWhile isDigit with
    | '_' :: rest =>
      match rest with
      | c :: _ =>
        if isDigit c then skipBased fuel rest
        else if c.isDigit then .error (.badDigit c kind)
        else .error (.badNumber kind)
      | [] => .error (.badNumber kind)
    | rest => .ok rest

/-- Whether a character is a hexadecimal digit. -/
def isHexDigit (c : Char) : Bool :=
  c.isDigit || ('a' ≤ c && c ≤ 'f') || ('A' ≤ c && c ≤ 'F')

/-- A number that begins with a zero, from behind the zero. -/
def cutAfterZero (cs : List Char) : Except Problem (Lexeme × List Char) :=
  match cs with
  | 'x' :: rest => cutBased isHexDigit "hexadecimal" rest
  | 'X' :: rest => cutBased isHexDigit "hexadecimal" rest
  | 'o' :: rest => cutBased (fun c => '0' ≤ c && c ≤ '7') "octal" rest
  | 'O' :: rest => cutBased (fun c => '0' ≤ c && c ≤ '7') "octal" rest
  | 'b' :: rest => cutBased (fun c => c == '0' || c == '1') "binary" rest
  | 'B' :: rest => cutBased (fun c => c == '0' || c == '1') "binary" rest
  | _ => do
    let rest ← skipDecimals cs
    let goesOn := rest.head?.any fun c => ['.', 'e', 'E', 'j', 'J'].contains c
    let digits := (cs.take (cs.length - rest.length)).filter Char.isDigit
    if goesOn then cutPoint rest
    else if digits.all (· == '0') then endNumber "decimal" false rest
    else .error .leadingZeros

/-- A number. -/
def cutNumber : List Char → Except Problem (Lexeme × List Char)
  | '0' :: cs => cutAfterZero cs
  | cs => do cutPoint (← skipDecimals cs)

/-- The inside of a text between single marks, and the text behind it; `line` is the line that it
    begins in. -/
def cutShort (mark : Char) (line : Nat) : List Char → Except Problem (List Char × List Char)
  | [] => .error (.openText line)
  | '\\' :: '\n' :: cs => (cutShort mark (line + 1) cs).map fun (inside, rest) =>
    ('\\' :: '\n' :: inside, rest)
  | '\\' :: c :: cs => (cutShort mark line cs).map fun (inside, rest) => ('\\' :: c :: inside, rest)
  | c :: cs =>
    if c = mark then .ok ([], cs)
    else if c = '\n' then .error (.openText line)
    else (cutShort mark line cs).map fun (inside, rest) => (c :: inside, rest)

/-- The inside of a text between triple marks, and the text behind it; `line` is the last line of
    the whole. -/
def cutLong (mark : Char) (line : Nat) : List Char → Except Problem (List Char × List Char)
  | [] => .error (.openLongText line)
  | '\\' :: c :: cs => (cutLong mark line cs).map fun (inside, rest) => ('\\' :: c :: inside, rest)
  | c :: cs =>
    if c = mark && cs.take 2 = [mark, mark] then .ok ([], cs.drop 2)
    else (cutLong mark line cs).map fun (inside, rest) => (c :: inside, rest)

/-- The characters that a text is encoded with where its escapes are read: those that are not plain
    take ten. -/
def encodedSize (c : Char) : Nat := if c.toNat < 128 then 1 else 10

/-- Whether a text may be the name of a character: the names are written in letters, digits, spaces
    and hyphens. -/
def mayBeCharacterName (cs : List Char) : Bool :=
  cs.all fun c => c.isAlphanum || c == ' ' || c == '-'

/-- The first broken escape of a text; `position` counts what is before it, `fuel` bounds the number
    of steps. -/
def escapeProblem? : (fuel position : Nat) → List Char → Option Problem
  | 0, _, _ => none
  | _, _, [] => none
  | fuel + 1, position, '\\' :: 'x' :: cs =>
    fixed position "truncated \\xXX escape" 2 cs <|>
      escapeProblem? fuel (position + 4) (cs.drop 2)
  | fuel + 1, position, '\\' :: 'u' :: cs =>
    fixed position "truncated \\uXXXX escape" 4 cs <|>
      escapeProblem? fuel (position + 6) (cs.drop 4)
  | fuel + 1, position, '\\' :: 'U' :: cs =>
    fixed position "truncated \\UXXXXXXXX escape" 8 cs <|>
      escapeProblem? fuel (position + 10) (cs.drop 8)
  | fuel + 1, position, '\\' :: 'N' :: '\x7b' :: cs =>
    let name := cs.takeWhile (· != '\x7d')
    let size := name.foldl (fun n c => n + encodedSize c) 0
    let malformed (last : Nat) : Option Problem :=
      some (.badEscape position last "malformed \\N character escape")
    if name.isEmpty then malformed (position + 2)
    else if name.length = cs.length then malformed (position + 2 + size)
    else if mayBeCharacterName name then
      escapeProblem? fuel (position + 4 + size) (cs.drop (name.length + 1))
    else some (.badEscape position (position + 3 + size) "unknown Unicode character name")
  | _, position, '\\' :: 'N' :: _ =>
    some (.badEscape position (position + 1) "malformed \\N character escape")
  | fuel + 1, position, '\\' :: c :: cs =>
    escapeProblem? fuel (position + if c.toNat < 128 then 2 else 16) cs
  | fuel + 1, position, c :: cs => escapeProblem? fuel (position + encodedSize c) cs
where
  /-- An escape of a fixed number of digits. -/
  fixed (position : Nat) (reason : String) (width : Nat) (cs : List Char) : Option Problem :=
    let digits := (cs.take width).takeWhile isHexDigit
    if digits.length < width then
      some (.badEscape position (position + 1 + digits.length) reason)
    else if width = 8 && 0x10ffff < (digits.foldl (fun n c => n * 16 + hexValue c) 0) then
      some (.badEscape position (position + 9) "illegal Unicode character")
    else none
  /-- The value of a hexadecimal digit. -/
  hexValue (c : Char) : Nat :=
    if c.isDigit then c.toNat - '0'.toNat else c.toLower.toNat - 'a'.toNat + 10

/-- The first broken escape of a text of bytes. -/
def byteEscapeProblem? (position : Nat) : List Char → Option Problem
  | [] => none
  | '\\' :: 'x' :: a :: b :: cs =>
    if isHexDigit a && isHexDigit b then byteEscapeProblem? (position + 4) cs
    else some (.badByteEscape position)
  | '\\' :: 'x' :: _ => some (.badByteEscape position)
  | '\\' :: _ :: cs => byteEscapeProblem? (position + 2) cs
  | _ :: cs => byteEscapeProblem? (position + 1) cs

/-- The problem with the inside of a text that is filled in. -/
def formProblem? : List Char → Option Problem
  | [] => none
  | '\x7b' :: '\x7b' :: cs => formProblem? cs
  | '\x7d' :: '\x7d' :: cs => formProblem? cs
  | '\x7d' :: _ => some (.badForm "f-string: single '\x7d' is not allowed")
  | '\x7b' :: cs =>
    match cs.dropWhile fun c => c == ' ' || c == '\t' || c == '\n' with
    | [] => some (.badForm "f-string: expecting '\x7d'")
    | '\x7d' :: _ => some (.badForm "f-string: empty expression not allowed")
    | _ => none
  | _ :: cs => formProblem? cs

/-- What is put before a text: whether it is one of bytes, whether its backslashes are plain, and
    whether it is filled in. -/
structure Prefixes where
  bytes : Bool
  raw : Bool
  formatted : Bool

/-- The letters before a text, if they may stand there. -/
def prefixes? (letters : List Char) : Option Prefixes :=
  match String.ofList (letters.map Char.toLower) with
  | "" => some ⟨false, false, false⟩
  | "u" => some ⟨false, false, false⟩
  | "b" => some ⟨true, false, false⟩
  | "r" => some ⟨false, true, false⟩
  | "f" => some ⟨false, false, true⟩
  | "br" => some ⟨true, true, false⟩
  | "rb" => some ⟨true, true, false⟩
  | "fr" => some ⟨false, true, true⟩
  | "rf" => some ⟨false, true, true⟩
  | _ => none

/-- The problem with the inside of a text. -/
def insideProblem? (p : Prefixes) (inside : List Char) : Option Problem :=
  if p.bytes then
    if inside.any fun c => 128 ≤ c.toNat then some .wideCharacterInBytes
    else if p.raw then none else byteEscapeProblem? 0 inside
  else if p.formatted then formProblem? inside
  else if p.raw then none
  else escapeProblem? (inside.length + 1) 0 inside

/-- A text between quotes, from its mark on; `line` is the line that it begins in, `lines` the
    number of lines of the whole. -/
def cutText (p : Prefixes) (line lines : Nat) : List Char → Except Problem (Lexeme × List Char)
  | [] => .error .badSyntax
  | mark :: cs => do
    let (inside, rest) ←
      if cs.take 2 = [mark, mark] then cutLong mark lines (cs.drop 2) else cutShort mark line cs
    return (.text p.bytes p.formatted (insideProblem? p inside), rest)

/-- Marks of three and of two characters. -/
def longMarks : List String :=
  ["**=", "//=", "<<=", ">>=", "...", "!=", "%=", "&=", "**", "*=", "+=", "-=", "->", "//", "/=",
    ":=", "<<", "<=", "<>", "==", ">=", ">>", "@=", "^=", "|="]

/-- A mark; a single character is always one. -/
def cutMark (cs : List Char) : Except Problem (Lexeme × List Char) :=
  match longMarks.find? fun m => m.toList.isPrefixOf cs with
  | some m => .ok (.mark m, cs.drop m.length)
  | none =>
    match cs with
    | [] => .error .badSyntax
    | c :: rest =>
      if Text.isPrintable c then .ok (.mark (String.ofList [c]), rest)
      else .error (.hiddenCharacter c)

/-- The bracket that a closing one belongs to. -/
def openingOf? : Char → Option Char
  | ')' => some '('
  | ']' => some '['
  | '\x7d' => some '\x7b'
  | _ => none

/-- The brackets that are open, innermost first, with the lines that they stand in. -/
abbrev Brackets := List (Char × Nat)

/-- The brackets that are open behind a character. -/
def bracketsBehind (line : Nat) (c : Char) (isOpen : Brackets) : Except Problem Brackets :=
  if c == '(' || c == '[' || c == '\x7b' then
    if 200 ≤ isOpen.length then .error .tooManyBrackets else .ok ((c, line) :: isOpen)
  else
    match openingOf? c, isOpen with
    | none, _ => .ok isOpen
    | some _, [] => .error (.unmatched c)
    | some expected, (o, begun) :: outer =>
      if o = expected then .ok outer
      else .error (.mismatched c o (if begun = line then none else some begun))

/-- A token at the front of a text that begins with neither white space nor a comment. -/
def cutToken (line lines : Nat) (cs : List Char) : Except Problem (Lexeme × List Char) :=
  match cs with
  | [] => .ok (.finish, [])
  | c :: rest =>
    let letters := cs.takeWhile Char.isAlpha
    let behind := cs.drop letters.length
    let quoted := behind.head? = some '"' || behind.head? = some '\''
    match if quoted then prefixes? letters else none with
    | some p => cutText p line lines behind
    | none =>
      if opensName c then cutName cs
      else if c.isDigit then cutNumber cs
      else if c = '.' && (rest.head?.map Char.isDigit).getD false then cutFraction rest
      else cutMark cs

/-- What stands where the text ends before it should. -/
def brokenOff (problem : Problem) (isOpen : Brackets) : Lexeme :=
  .broken ((isOpen.head?.map fun b => Problem.neverClosed b.1).getD problem) isOpen.head?

/-- The tokens of a text.  `isOpen` holds the open brackets, `line` counts lines, `fresh` says
    whether a line begins here, and `fuel` bounds the number of steps. -/
def tokensFrom (lines : Nat) : (fuel line : Nat) → (isOpen : Brackets) → (fresh : Bool) →
    List Char → Except Problem (List Token)
  | 0, line, _, _, _ => .ok [⟨.finish, 0, line⟩]
  | fuel + 1, line, isOpen, fresh, cs =>
    let rest := cs.dropWhile fun c => c == ' ' || c == '\t' || c == '\x0c'
    let rest := if rest.head? = some '#' then rest.dropWhile (· != '\n') else rest
    let last (lexeme : Lexeme) : List Token := [⟨lexeme, isOpen.length, line⟩]
    match rest with
    | [] => .ok (last (if isOpen.isEmpty then .finish else brokenOff .endAfterBackslash isOpen))
    | '\n' :: rest =>
      if isOpen.isEmpty && !fresh then
        (tokensFrom lines fuel (line + 1) isOpen true rest).map (⟨.lineEnd, 0, line⟩ :: ·)
      else tokensFrom lines fuel (line + 1) isOpen fresh rest
    | '\\' :: '\n' :: rest =>
      if rest.isEmpty then .ok (last (brokenOff .endAfterBackslash isOpen))
      else tokensFrom lines fuel (line + 1) isOpen fresh rest
    | '\\' :: _ => .ok (last (.broken .characterAfterBackslash isOpen.head?))
    | c :: _ =>
      if fresh && rest.length ≠ cs.length then
        (tokensFrom lines fuel line isOpen false rest).map (⟨.indent, 0, line⟩ :: ·)
      else do
        let (lexeme, behind) ← cutToken line lines rest
        let isOpen ← match lexeme with
          | .mark _ => bracketsBehind line c isOpen
          | _ => .ok isOpen
        let passed := rest.take (rest.length - behind.length)
        let tokens ← tokensFrom lines fuel (line + passed.count '\n') isOpen false behind
        return ⟨lexeme, isOpen.length, line⟩ :: tokens

/-- The tokens of a text. -/
def tokens (cs : List Char) : Except Problem (List Token) :=
  if cs.contains '\x00' then .error .nullCharacter
  else tokensFrom (cs.count '\n' + 1) (2 * cs.length + 2) 1 [] true cs

end Scaffold.Console.Argument
