import Scaffold.Json.Value
import Scaffold.Number.Decimal

/-!
# Reading JSON

A reader takes a value from the front of a text and returns the rest of it.  A fault holds the
rest of the text at which it was noticed, from which its line and column follow.  Nesting is
limited; within a level, the reader is bounded by the length of the text.
-/

namespace Scaffold.Json

/-- What can be wrong with a JSON text. -/
inductive Problem where
  | endInValue
  | endInString
  | endInList
  | endInMap
  | expectedIdent
  | expectedValue
  | expectedColon
  | expectedCommaOrBracket
  | expectedCommaOrBrace
  | keyNotString
  | trailingComma
  | trailingText
  | invalidNumber
  | numberOutOfRange
  | invalidEscape
  | controlCharacter
  | loneSurrogate
  | endOfHexEscape
  | nestingTooDeep
  deriving DecidableEq, Repr

/-- The words for a problem. -/
def Problem.message : Problem → String
  | endInValue => "EOF while parsing a value"
  | endInString => "EOF while parsing a string"
  | endInList => "EOF while parsing a list"
  | endInMap => "EOF while parsing an object"
  | expectedIdent => "expected ident"
  | expectedValue => "expected value"
  | expectedColon => "expected \x60:\x60"
  | expectedCommaOrBracket => "expected \x60,\x60 or \x60]\x60"
  | expectedCommaOrBrace => "expected \x60,\x60 or \x60\x7d\x60"
  | keyNotString => "key must be a string"
  | trailingComma => "trailing comma"
  | trailingText => "trailing characters"
  | invalidNumber => "invalid number"
  | numberOutOfRange => "number out of range"
  | invalidEscape => "invalid escape"
  | controlCharacter =>
    "control character (\\u0000-\\u001F) found while parsing a string"
  | loneSurrogate => "lone leading surrogate in hex escape"
  | endOfHexEscape => "unexpected end of hex escape"
  | nestingTooDeep => "recursion limit exceeded"

/-- A problem and the text that was left when it was noticed. -/
structure ParseFault where
  problem : Problem
  rest : List Char
  deriving DecidableEq, Repr

namespace Parser

/-- What a reader returns: its result and the rest of the text. -/
abbrev Reading (α : Type) := α × List Char

/-- Ends with a problem noticed at `rest`. -/
def fault {α : Type} (problem : Problem) (rest : List Char) : Except ParseFault α :=
  .error ⟨problem, rest⟩

/-- The text without the white space at its beginning. -/
def skipBlanks (cs : List Char) : List Char :=
  cs.dropWhile fun c => c == ' ' || c == '\t' || c == '\n' || c == '\r'

/-- Takes a fixed word; a text that ends inside it is an unfinished value. -/
def takeWord (value : Value) : (word cs : List Char) → Except ParseFault (Reading Value)
  | [], cs => .ok (value, cs)
  | _ :: _, [] => fault .endInValue []
  | w :: word, c :: cs =>
    if w = c then takeWord value word cs else fault .expectedIdent (c :: cs)

/-- The value of a hexadecimal digit. -/
def hexValue? (c : Char) : Option Nat :=
  if '0' ≤ c ∧ c ≤ '9' then some (c.toNat - '0'.toNat)
  else if 'a' ≤ c ∧ c ≤ 'f' then some (c.toNat - 'a'.toNat + 10)
  else if 'A' ≤ c ∧ c ≤ 'F' then some (c.toNat - 'A'.toNat + 10)
  else none

/-- Takes `count` hexadecimal digits. -/
def takeHex : (count acc : Nat) → List Char → Except ParseFault (Reading Nat)
  | 0, acc, cs => .ok (acc, cs)
  | _ + 1, _, [] => fault .endInString []
  | count + 1, acc, c :: cs =>
    match hexValue? c with
    | some d => takeHex count (acc * 16 + d) cs
    | none => fault .invalidEscape (c :: cs)

/-- Takes four hexadecimal digits; a text with fewer than four bytes left ends inside its string. -/
def takeUnit (cs : List Char) : Except ParseFault (Reading Nat) :=
  if (String.ofList (cs.take 4)).utf8ByteSize < 4 then fault .endInString [] else takeHex 4 0 cs

/-- Takes the second half of a character written as two units. -/
def takeLowSurrogate (high : Nat) : List Char → Except ParseFault (Reading Char)
  | '\\' :: 'u' :: cs => do
    let (low, rest) ← takeUnit cs
    if 0xdc00 ≤ low ∧ low ≤ 0xdfff then
      return (Char.ofNat (0x10000 + (high - 0xd800) * 0x400 + (low - 0xdc00)), rest)
    else fault .loneSurrogate (cs.drop 3)
  | ['\\'] => fault .endInString []
  | [] => fault .endInString []
  | '\\' :: cs => fault .endOfHexEscape cs
  | cs => fault .endOfHexEscape cs

/-- Takes the digits of a unicode escape, and of the one that completes it. -/
def takeEscapedPoint (cs : List Char) : Except ParseFault (Reading Char) := do
  let (unit, rest) ← takeUnit cs
  if 0xd800 ≤ unit ∧ unit ≤ 0xdbff then takeLowSurrogate unit rest
  else if 0xdc00 ≤ unit ∧ unit ≤ 0xdfff then fault .loneSurrogate (cs.drop 3)
  else return (Char.ofNat unit, rest)

/-- The character for the letter of a short escape. -/
def shortEscape? : Char → Option Char
  | '"' => some '"'
  | '\\' => some '\\'
  | '/' => some '/'
  | 'b' => some '\x08'
  | 'f' => some '\x0c'
  | 'n' => some '\n'
  | 'r' => some '\r'
  | 't' => some '\t'
  | _ => none

/-- Takes the rest of a string after its opening quote; `acc` holds what was read, reversed. -/
def takeString : (fuel : Nat) → (acc cs : List Char) → Except ParseFault (Reading String)
  | 0, _, cs => fault .endInString cs
  | _ + 1, _, [] => fault .endInString []
  | fuel + 1, acc, c :: cs =>
    if c = '"' then .ok (String.ofList acc.reverse, cs)
    else if c = '\\' then
      match cs with
      | [] => fault .endInString []
      | e :: rest =>
        if e = 'u' then
          match takeEscapedPoint rest with
          | .ok (point, rest) => takeString fuel (point :: acc) rest
          | .error f => .error f
        else
          match shortEscape? e with
          | some x => takeString fuel (x :: acc) rest
          | none => fault .invalidEscape cs
    else if c.toNat < 0x20 then fault .controlCharacter (c :: cs)
    else takeString fuel (c :: acc) cs

/-- At least one digit, and what follows. -/
def takeDigits1 (cs : List Char) : Except ParseFault (Reading (List Char)) :=
  match Decimal.takeDigits cs with
  | ([], []) => fault .endInValue []
  | ([], rest) => fault .invalidNumber rest
  | (ds, rest) => .ok (ds, rest)

/-- The integer part of a number: zero alone, or digits that do not begin with zero. -/
def takeWhole (cs : List Char) : Except ParseFault (Reading (List Char)) :=
  match cs with
  | '0' :: d :: rest =>
    if Decimal.isDigit d then fault .invalidNumber (d :: rest) else .ok (['0'], d :: rest)
  | ['0'] => .ok (['0'], [])
  | _ => takeDigits1 cs

/-- The exponent of a number, with whether there is one. -/
def takeExponent (cs : List Char) : Except ParseFault (Reading (Option Int)) :=
  match cs with
  | c :: rest =>
    if c = 'e' ∨ c = 'E' then do
      let (negative, rest) := Decimal.takeSign rest
      let (ds, rest) ← takeDigits1 rest
      return (some (if negative then -(Decimal.value ds) else Decimal.value ds), rest)
    else .ok (none, cs)
  | [] => .ok (none, [])

/-- The greatest number of characters before the fraction of a number. -/
def wholeLimit : Nat := 4300

/-- Takes a number whose sign has been read. -/
def takeNumber (negative : Bool) (cs : List Char) : Except ParseFault (Reading Value) := do
  let (whole, rest) ← takeWhole cs
  let sign := if negative then 1 else 0
  if wholeLimit < sign + whole.length then
    fault .numberOutOfRange (cs.drop (wholeLimit + 1 - sign))
  let (fraction, rest) ← match rest with
    | '.' :: rest => (takeDigits1 rest).map fun (ds, rest) => (some ds, rest)
    | _ => .ok (none, rest)
  let (exponent, rest) ← takeExponent rest
  if fraction.isNone && exponent.isNone then
    return (.int (if negative then -(Decimal.value whole) else Decimal.value whole), rest)
  else
    return (.float (Decimal.Parts.toBinary64
      ⟨negative, whole, fraction.getD [], exponent.getD 0⟩), rest)

/-- Takes a value that is neither a list nor a map. -/
def takeScalar (cs : List Char) : Except ParseFault (Reading Value) :=
  match cs with
  | [] => fault .endInValue []
  | '"' :: rest => (takeString (rest.length + 1) [] rest).map fun (s, rest) => (.str s, rest)
  | 'n' :: rest => takeWord .null ['u', 'l', 'l'] rest
  | 't' :: rest => takeWord (.bool true) ['r', 'u', 'e'] rest
  | 'f' :: rest => takeWord (.bool false) ['a', 'l', 's', 'e'] rest
  | 'N' :: rest => takeWord (.float .nan) ['a', 'N'] rest
  | 'I' :: rest => takeWord (.float (.infinite false)) "nfinity".toList rest
  | '-' :: 'I' :: rest => takeWord (.float (.infinite true)) "nfinity".toList rest
  | '-' :: rest => takeNumber true rest
  | c :: _ => if Decimal.isDigit c then takeNumber false cs else fault .expectedValue cs

/-- Takes the items of a list from the point where one must follow. -/
def takeItems (takeValue : List Char → Except ParseFault (Reading Value)) :
    (fuel : Nat) → (acc : List Value) → List Char → Except ParseFault (Reading (List Value))
  | 0, _, cs => fault .endInList cs
  | fuel + 1, acc, cs => do
    let (item, rest) ← takeValue cs
    match skipBlanks rest with
    | [] => fault .endInList []
    | ',' :: rest =>
      match skipBlanks rest with
      | [] => fault .endInValue []
      | ']' :: rest => fault .trailingComma (']' :: rest)
      | next => takeItems takeValue fuel (item :: acc) next
    | ']' :: rest => return ((item :: acc).reverse, rest)
    | other => fault .expectedCommaOrBracket other

/-- Takes a key after its opening quote, and the colon. -/
def takeKey (cs : List Char) : Except ParseFault (Reading String) := do
  let (key, rest) ← takeString (cs.length + 1) [] cs
  match skipBlanks rest with
  | [] => fault .endInMap []
  | ':' :: rest => return (key, rest)
  | other => fault .expectedColon other

/-- Takes the entries of a map from behind the opening quote of a key. -/
def takeEntries (takeValue : List Char → Except ParseFault (Reading Value)) :
    (fuel : Nat) → (acc : List (String × Value)) → List Char → Except ParseFault (Reading Entries)
  | 0, _, cs => fault .endInMap cs
  | fuel + 1, acc, cs => do
    let (key, rest) ← takeKey cs
    let (item, rest) ← takeValue (skipBlanks rest)
    match skipBlanks rest with
    | [] => fault .endInMap []
    | ',' :: rest =>
      match skipBlanks rest with
      | [] => fault .endInValue []
      | '"' :: next => takeEntries takeValue fuel ((key, item) :: acc) next
      | '}' :: rest => fault .trailingComma ('}' :: rest)
      | other => fault .keyNotString other
    | '}' :: rest => return (Entries.ofPairs ((key, item) :: acc).reverse, rest)
    | other => fault .expectedCommaOrBrace other

/-- Takes no value: it would be nested too deeply. -/
def takeTooDeep (cs : List Char) : Except ParseFault (Reading Value) :=
  if cs.isEmpty then fault .endInValue [] else fault .nestingTooDeep cs

/-- Takes a value at the front of a text that does not begin with white space; `takeInner` takes
    what is inside a list or a map. -/
def takeOuter (takeInner : List Char → Except ParseFault (Reading Value)) (cs : List Char) :
    Except ParseFault (Reading Value) :=
  match cs with
  | '[' :: rest =>
    match skipBlanks rest with
    | [] => fault .endInList []
    | ']' :: rest => .ok (.list [], rest)
    | next =>
      (takeItems takeInner (next.length + 1) [] next).map
        fun (items, rest) => (.list items, rest)
  | '{' :: rest =>
    match skipBlanks rest with
    | [] => fault .endInMap []
    | '}' :: rest => .ok (.map [], rest)
    | '"' :: next =>
      (takeEntries takeInner (next.length + 1) [] next).map
        fun (entries, rest) => (.map entries, rest)
    | other => fault .keyNotString other
  | _ => takeScalar cs

/-- Takes a value at the front of a text that does not begin with white space; lists and maps with
    something inside nest at most `depth` deep. -/
def takeValue : (depth : Nat) → List Char → Except ParseFault (Reading Value)
  | 0 => takeOuter takeTooDeep
  | depth + 1 => takeOuter (takeValue depth)

end Parser

/-- The number of levels of lists and maps that a text may nest. -/
def nestingLimit : Nat := 200

/-- The value that a text spells. -/
def parse (text : List Char) : Except ParseFault Value := do
  let (value, rest) ← Parser.takeValue nestingLimit (Parser.skipBlanks text)
  match Parser.skipBlanks rest with
  | [] => return value
  | other => Parser.fault .trailingText other

/-- The line and column, counted in bytes from one, at which `rest` begins in `text`; at the
    end of the text the column is that of the last byte. -/
def position (text rest : List Char) : Nat × Nat :=
  let before := text.take (text.length - rest.length)
  let line := before.count '\n' + 1
  let column := (String.ofList (before.reverse.takeWhile (· != '\n'))).utf8ByteSize
  match rest with
  | [] => (line, column)
  | '\n' :: _ => (line + 1, 0)
  | _ => (line, column + 1)

/-- The text of a fault noticed while reading `text`. -/
def ParseFault.message (text : List Char) (f : ParseFault) : String :=
  let (line, column) := position text f.rest
  "Invalid JSON: " ++ f.problem.message ++ " at line " ++ toString line ++ " column " ++
    toString column

end Scaffold.Json
