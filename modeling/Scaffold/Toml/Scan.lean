import Scaffold.Number.Decimal
import Scaffold.Text.Quoted
import Scaffold.Toml.Value

/-!
# Reading TOML strings, numbers and times

A reader takes a value from the front of a text and returns the rest.  A fault holds the rest of the
text at which it was noticed, from which its line and column follow.
-/

namespace Scaffold.Toml

/-- What can be wrong with a TOML text. -/
inductive Problem where
  | invalidStatement
  | expectedLineEnd
  | expectedEquals
  | expectedTableEnd
  | expectedArrayEnd
  | expected (text : String)
  | invalidKeyStart
  | invalidValue
  | invalidMoment
  | unclosedArray
  | unclosedInlineTable
  | duplicateInlineKey (key : String)
  | unterminatedString
  | unescapedBackslash
  | invalidHex
  | notScalarValue
  | illegalCharacter (c : Char)
  | invalidCharacter (c : Char)
  | declaredTwice (path : List String)
  | immutable (path : List String)
  | redefined (path : List String)
  | overwritten
  deriving DecidableEq, Repr

/-- A path of keys as it is shown. -/
def showPath (path : List String) : String :=
  "(" ++ ", ".intercalate (path.map Text.quote) ++ (if path.length = 1 then ",)" else ")")

/-- The words for a problem. -/
def Problem.message : Problem → String
  | invalidStatement => "Invalid statement"
  | expectedLineEnd => "Expected newline or end of document after a statement"
  | expectedEquals => "Expected '=' after a key in a key/value pair"
  | expectedTableEnd => "Expected ']' at the end of a table declaration"
  | expectedArrayEnd => "Expected ']]' at the end of an array declaration"
  | expected text => "Expected " ++ Text.quote text
  | invalidKeyStart => "Invalid initial character for a key part"
  | invalidValue => "Invalid value"
  | invalidMoment => "Invalid date or datetime"
  | unclosedArray => "Unclosed array"
  | unclosedInlineTable => "Unclosed inline table"
  | duplicateInlineKey key => "Duplicate inline table key " ++ Text.quote key
  | unterminatedString => "Unterminated string"
  | unescapedBackslash => "Unescaped '\\' in a string"
  | invalidHex => "Invalid hex value"
  | notScalarValue => "Escaped character is not a Unicode scalar value"
  | illegalCharacter c => "Illegal character " ++ Text.quoteChar c
  | invalidCharacter c => "Found invalid character " ++ Text.quoteChar c
  | declaredTwice path => "Cannot declare " ++ showPath path ++ " twice"
  | immutable path => "Cannot mutate immutable namespace " ++ showPath path
  | redefined path => "Cannot redefine namespace " ++ showPath path
  | overwritten => "Cannot overwrite a value"

/-- A problem and the text that was left when it was noticed. -/
structure Fault where
  problem : Problem
  rest : List Char
  deriving DecidableEq, Repr

/-- The text of a fault noticed while reading `text`. -/
def Fault.message (text : List Char) (f : Fault) : String :=
  let before := text.take (text.length - f.rest.length)
  let place := match f.rest with
    | [] => "end of document"
    | _ => "line " ++ toString (before.count '\n' + 1) ++ ", column " ++
        toString ((before.reverse.takeWhile (· != '\n')).length + 1)
  f.problem.message ++ " (at " ++ place ++ ")"

/-- A value that was read, and the rest of the text. -/
abbrev Reading (α : Type) := α × List Char

/-- Ends with a problem noticed at `rest`. -/
def fault {α : Type} (problem : Problem) (rest : List Char) : Except Fault α :=
  .error ⟨problem, rest⟩

/-- Whether a character is white space inside a line. -/
def isSpace (c : Char) : Bool := c == ' ' || c == '\t'

/-- Whether a character may not stand in a text on one line. -/
def isForbidden (c : Char) : Bool := (c.toNat < 32 && c != '\t') || c.toNat == 127

/-- Whether a character may not stand in a text on many lines. -/
def isForbiddenAcrossLines (c : Char) : Bool := isForbidden c && c != '\n'

/-- The text without the spaces at its beginning. -/
def skipSpaces (cs : List Char) : List Char := cs.dropWhile isSpace

/-- The text without the spaces and line ends at its beginning. -/
def skipSpacesAndLines (cs : List Char) : List Char := cs.dropWhile fun c => isSpace c || c == '\n'

/-- The text behind a word, if it begins with it. -/
def dropPrefix? : (word cs : List Char) → Option (List Char)
  | [], cs => some cs
  | _ :: _, [] => none
  | w :: word, c :: cs => if w = c then dropPrefix? word cs else none

/-- The text before the first place where `mark` begins, and the text from there on. -/
def cutBefore? (mark : List Char) : List Char → Option (Reading (List Char))
  | [] => if mark.isEmpty then some ([], []) else none
  | c :: cs =>
    if (dropPrefix? mark (c :: cs)).isSome then some ([], c :: cs)
    else (cutBefore? mark cs).map fun (s, rest) => (c :: s, rest)

/-- The text from the first forbidden character among the first `count` ones on. -/
def findForbidden? (forbidden : Char → Bool) : (count : Nat) → List Char → Option (List Char)
  | 0, _ => none
  | _ + 1, [] => none
  | count + 1, c :: cs =>
    if forbidden c then some (c :: cs) else findForbidden? forbidden count cs

/-- Takes the text before `mark`, which must be there and before which no character may be
    forbidden. -/
def takeUntil (mark : String) (forbidden : Char → Bool) (cs : List Char) :
    Except Fault (Reading (List Char)) :=
  match cutBefore? mark.toList cs with
  | none => fault (.expected mark) []
  | some (s, rest) =>
    match findForbidden? forbidden s.length cs with
    | some (c :: at_) => fault (.invalidCharacter c) (c :: at_)
    | _ => .ok (s, rest)

/-- The text behind a comment at the front, if there is one. -/
def skipComment : List Char → Except Fault (List Char)
  | '#' :: cs =>
    let comment := cs.takeWhile (· != '\n')
    match findForbidden? isForbidden comment.length cs with
    | some (c :: at_) => fault (.invalidCharacter c) (c :: at_)
    | _ => .ok (cs.drop comment.length)
  | cs => .ok cs

/-- The text behind all white space, line ends and comments; `fuel` is the length of the text. -/
def skipArrayGap : (fuel : Nat) → List Char → Except Fault (List Char)
  | 0, cs => .ok cs
  | fuel + 1, cs =>
    match skipComment (skipSpacesAndLines cs) with
    | .error f => .error f
    | .ok rest => if rest.length = cs.length then .ok rest else skipArrayGap fuel rest

/-- The value of a hexadecimal digit. -/
def hexValue? (c : Char) : Option Nat :=
  if '0' ≤ c ∧ c ≤ '9' then some (c.toNat - '0'.toNat)
  else if 'a' ≤ c ∧ c ≤ 'f' then some (c.toNat - 'a'.toNat + 10)
  else if 'A' ≤ c ∧ c ≤ 'F' then some (c.toNat - 'A'.toNat + 10)
  else none

/-- Takes a character written as `count` hexadecimal digits. -/
def takeHexChar (count : Nat) (cs : List Char) : Except Fault (Reading (List Char)) :=
  match (cs.take count).mapM hexValue? with
  | none => fault .invalidHex cs
  | some digits =>
    if digits.length ≠ count then fault .invalidHex cs
    else
      let point := digits.foldl (fun n d => n * 16 + d) 0
      if point < 0xd800 ∨ (0xdfff < point ∧ point < 0x110000) then
        .ok ([Char.ofNat point], cs.drop count)
      else fault .notScalarValue (cs.drop count)

/-- The character for the letter of a short escape. -/
def shortEscape? : Char → Option Char
  | 'b' => some '\x08'
  | 't' => some '\t'
  | 'n' => some '\n'
  | 'f' => some '\x0c'
  | 'r' => some '\r'
  | '"' => some '"'
  | '\\' => some '\\'
  | _ => none

/-- Takes an escape from behind its backslash.  On many lines, a backslash before the end of a
    line stands for nothing, and so do the white space and line ends behind it. -/
def takeEscape (multiLine : Bool) : List Char → Except Fault (Reading (List Char))
  | [] => fault .unescapedBackslash []
  | c :: cs =>
    if multiLine && c == '\n' then .ok ([], skipSpacesAndLines cs)
    else if multiLine && isSpace c then
      match skipSpaces cs with
      | [] => .ok ([], [])
      | '\n' :: rest => .ok ([], skipSpacesAndLines rest)
      | rest => fault .unescapedBackslash rest
    else if c = 'u' then takeHexChar 4 cs
    else if c = 'U' then takeHexChar 8 cs
    else
      match shortEscape? c with
      | some x => .ok ([x], cs)
      | none => fault .unescapedBackslash cs

/-- Takes the rest of a string with escapes; `acc` holds what was read, reversed. -/
def takeBasic (multiLine : Bool) : (fuel : Nat) → (acc cs : List Char) →
    Except Fault (Reading (List Char))
  | 0, _, cs => fault .unterminatedString cs
  | _ + 1, _, [] => fault .unterminatedString []
  | fuel + 1, acc, c :: cs =>
    if c = '"' then
      if multiLine then
        match cs with
        | '"' :: '"' :: rest => .ok (acc.reverse, rest)
        | _ => takeBasic multiLine fuel (c :: acc) cs
      else .ok (acc.reverse, cs)
    else if c = '\\' then
      match takeEscape multiLine cs with
      | .error f => .error f
      | .ok (s, rest) => takeBasic multiLine fuel (s.reverse ++ acc) rest
    else if (if multiLine then isForbiddenAcrossLines c else isForbidden c) then
      fault (.illegalCharacter c) (c :: cs)
    else takeBasic multiLine fuel (c :: acc) cs

/-- Takes a string on one line, from behind its opening quote. -/
def takeBasicLine (cs : List Char) : Except Fault (Reading (List Char)) :=
  takeBasic false (cs.length + 1) [] cs

/-- Takes a string without escapes on one line, from behind its opening quote. -/
def takeLiteralLine (cs : List Char) : Except Fault (Reading (List Char)) :=
  (takeUntil "'" isForbidden cs).map fun (s, rest) => (s, rest.drop 1)

/-- Up to two more quotes directly behind the end of a string belong to it. -/
def takeFinalQuotes (quote : Char) (s : List Char) : List Char → Reading (List Char)
  | a :: b :: cs =>
    if a = quote then if b = quote then (s ++ [a, b], cs) else (s ++ [a], b :: cs)
    else (s, a :: b :: cs)
  | [a] => if a = quote then (s ++ [a], []) else (s, [a])
  | [] => (s, [])

/-- The text without a line end at its very beginning. -/
def dropFirstLineEnd : List Char → List Char
  | '\n' :: cs => cs
  | cs => cs

/-- Takes a string on many lines, from behind its opening quotes. -/
def takeMultiLine (literal : Bool) (cs : List Char) : Except Fault (Reading (List Char)) :=
  let cs := dropFirstLineEnd cs
  if literal then
    (takeUntil "'''" isForbiddenAcrossLines cs).map fun (s, rest) =>
      takeFinalQuotes '\'' s (rest.drop 3)
  else (takeBasic true (cs.length + 1) [] cs).map fun (s, rest) => takeFinalQuotes '"' s rest

/-- The digits at the front, single underscores between them dropped, and the rest. -/
def takeGrouped (isDigit : Char → Bool) : List Char → Reading (List Char)
  | [] => ([], [])
  | '_' :: c :: cs =>
    if isDigit c then
      let (ds, rest) := takeGrouped isDigit cs
      (c :: ds, rest)
    else ([], '_' :: c :: cs)
  | c :: cs =>
    if isDigit c then
      let (ds, rest) := takeGrouped isDigit cs
      (c :: ds, rest)
    else ([], c :: cs)

/-- At least one digit, single underscores between digits dropped, and the rest. -/
def takeGrouped1? (isDigit : Char → Bool) : List Char → Option (Reading (List Char))
  | c :: cs =>
    if isDigit c then
      let (ds, rest) := takeGrouped isDigit cs
      some (c :: ds, rest)
    else none
  | [] => none

/-- The digits of a number in a base that is a power of two. -/
def takeInBase? (base : Nat) (cs : List Char) : Option (Reading Value) := do
  let isDigit := fun c => (hexValue? c).any (· < base)
  let (ds, rest) ← takeGrouped1? isDigit cs
  let n := ds.foldl (fun n d => n * base + (hexValue? d).getD 0) 0
  return (.int n, rest)

/-- The fraction behind a point, if digits follow it. -/
def takeFraction : List Char → Reading (Option (List Char))
  | '.' :: cs =>
    match takeGrouped1? Decimal.isDigit cs with
    | some (ds, rest) => (some ds, rest)
    | none => (none, '.' :: cs)
  | cs => (none, cs)

/-- The exponent behind its mark, if digits follow. -/
def takeExponent : List Char → Reading (Option Int)
  | c :: cs =>
    if c = 'e' ∨ c = 'E' then
      let (negative, behind) := Decimal.takeSign cs
      match takeGrouped1? Decimal.isDigit behind with
      | some (ds, rest) =>
        (some (if negative then -(Decimal.value ds) else Decimal.value ds), rest)
      | none => (none, c :: cs)
    else (none, c :: cs)
  | [] => (none, [])

/-- A decimal number at the front. -/
def takeDecimal? (cs : List Char) : Option (Reading Value) := do
  let (negative, cs) := Decimal.takeSign cs
  let (whole, rest) ← match cs with
    | '0' :: rest => some (['0'], rest)
    | _ => takeGrouped1? Decimal.isDigit cs
  let (fraction, rest) := takeFraction rest
  let (exponent, rest) := takeExponent rest
  if fraction.isNone && exponent.isNone then
    let n := Decimal.value whole
    return (.int (if negative then -n else n), rest)
  else
    let parts : Decimal.Parts := ⟨negative, whole, fraction.getD [], exponent.getD 0⟩
    return (.float parts.toBinary64, rest)

/-- A number at the front. -/
def takeNumber? (cs : List Char) : Option (Reading Value) :=
  let prefixed := match cs with
    | '0' :: 'x' :: rest => takeInBase? 16 rest
    | '0' :: 'b' :: rest => takeInBase? 2 rest
    | '0' :: 'o' :: rest => takeInBase? 8 rest
    | _ => none
  prefixed.orElse fun _ => takeDecimal? cs

/-- A number of exactly `count` digits within bounds, and the rest. -/
def takeFixed? (count low high : Nat) (cs : List Char) : Option (Reading Nat) :=
  let ds := cs.take count
  if ds.length = count ∧ ds.all Decimal.isDigit then
    let n := Decimal.value ds
    if low ≤ n ∧ n ≤ high then some (n, cs.drop count) else none
  else none

/-- The rest behind a character, if it is at the front. -/
def dropChar? (c : Char) : List Char → Option (List Char)
  | d :: cs => if d = c then some cs else none
  | [] => none

/-- A number with zeros before it up to `width` digits. -/
def padded (width n : Nat) : String :=
  let ds := Nat.toDigits 10 n
  String.ofList (List.replicate (width - ds.length) '0' ++ ds)

/-- The text of a fraction of a second: six digits, or nothing where all are zero. -/
def fractionText (ds : List Char) : String :=
  let six := (ds ++ List.replicate 6 '0').take 6
  if six.all (· == '0') then "" else "." ++ String.ofList six

/-- A time of day at the front, as it is shown. -/
def takeTime? (cs : List Char) : Option (Reading String) := do
  let (hour, cs) ← takeFixed? 2 0 23 cs
  let (minute, cs) ← takeFixed? 2 0 59 (← dropChar? ':' cs)
  let (second, cs) ← takeFixed? 2 0 59 (← dropChar? ':' cs)
  let (fraction, cs) := match cs with
    | '.' :: d :: rest =>
      if Decimal.isDigit d then Decimal.takeDigits (d :: rest) else ([], '.' :: d :: rest)
    | _ => ([], cs)
  return (padded 2 hour ++ ":" ++ padded 2 minute ++ ":" ++ padded 2 second ++
    fractionText fraction, cs)

/-- A distance from universal time at the front, as it is shown. -/
def takeOffset? : List Char → Option (Reading String)
  | c :: cs =>
    if c = 'Z' ∨ c = 'z' then some ("+00:00", cs)
    else if c = '+' ∨ c = '-' then do
      let (hour, rest) ← takeFixed? 2 0 23 cs
      let (minute, rest) ← takeFixed? 2 0 59 (← dropChar? ':' rest)
      let sign := if c = '-' ∧ (hour, minute) ≠ (0, 0) then "-" else "+"
      return (sign ++ padded 2 hour ++ ":" ++ padded 2 minute, rest)
    else none
  | [] => none

/-- The number of days of a month. -/
def daysIn (year month : Nat) : Nat :=
  if month = 2 then
    if year % 4 = 0 ∧ (year % 100 ≠ 0 ∨ year % 400 = 0) then 29 else 28
  else if [4, 6, 9, 11].contains month then 30
  else 31

/-- A date at the front, with a time of day if one follows, as it is shown; none inside where
    there is no such date. -/
def takeMoment? (cs : List Char) : Option (Reading (Option String)) := do
  let (year, cs) ← takeFixed? 4 0 9999 cs
  let (month, cs) ← takeFixed? 2 1 12 (← dropChar? '-' cs)
  let (day, cs) ← takeFixed? 2 1 31 (← dropChar? '-' cs)
  let valid := year ≠ 0 ∧ day ≤ daysIn year month
  let date := padded 4 year ++ "-" ++ padded 2 month ++ "-" ++ padded 2 day
  let time := match cs with
    | c :: rest => if c = 'T' ∨ c = 't' ∨ c = ' ' then takeTime? rest else none
    | [] => none
  let (text, cs) := match time with
    | none => (date, cs)
    | some (time, rest) =>
      match takeOffset? rest with
      | some (offset, rest) => (date ++ " " ++ time ++ offset, rest)
      | none => (date ++ " " ++ time, rest)
  return (if valid then some text else none, cs)

/-- A number that is not finite at the front. -/
def takeSpecial? (cs : List Char) : Option (Reading Value) :=
  let (negative, word) := Decimal.takeSign cs
  match dropPrefix? "inf".toList word with
  | some rest => some (.float (.infinite negative), rest)
  | none => (dropPrefix? "nan".toList word).map fun rest => (.float .nan, rest)

/-- A value that is neither an array nor an inline table. -/
def takeScalar (cs : List Char) : Except Fault (Reading Value) :=
  let text (read : Except Fault (Reading (List Char))) : Except Fault (Reading Value) :=
    read.map fun (s, rest) => (.str (String.ofList s), rest)
  let other : Except Fault (Reading Value) :=
    match takeMoment? cs with
    | some (some moment, rest) => .ok (.moment moment, rest)
    | some (none, _) => fault .invalidMoment cs
    | none =>
      match takeTime? cs with
      | some (time, rest) => .ok (.moment time, rest)
      | none =>
        match (takeNumber? cs).orElse fun _ => takeSpecial? cs with
        | some (v, rest) => .ok (v, rest)
        | none => fault .invalidValue cs
  match cs with
  | '"' :: '"' :: '"' :: rest => text (takeMultiLine false rest)
  | '"' :: rest => text (takeBasicLine rest)
  | '\'' :: '\'' :: '\'' :: rest => text (takeMultiLine true rest)
  | '\'' :: rest => text (takeLiteralLine rest)
  | 't' :: 'r' :: 'u' :: 'e' :: rest => .ok (.bool true, rest)
  | 'f' :: 'a' :: 'l' :: 's' :: 'e' :: rest => .ok (.bool false, rest)
  | _ => other

end Scaffold.Toml
