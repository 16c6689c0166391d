import Scaffold.Json.Value
import Scaffold.Number.Decimal
import Scaffold.Schema.Issue
import Scaffold.Text.Blank

/-!
# Reading typed values

Values are read leniently where their meaning is plain: words and the numbers zero and one are
booleans, whole numbers and their texts are integers.  Texts and lists are taken only as they are.
-/

namespace Scaffold.Schema

open Json

/-- Where a value comes from, which decides how lists and maps are called in messages. -/
inductive Source where
  | memory
  | json
  deriving DecidableEq, Repr

/-- ASCII letters in lower case. -/
def lowerAscii (s : String) : String := String.ofList (s.toList.map Char.toLower)

/-- The words for false. -/
def falseWords : List String := ["0", "off", "f", "false", "n", "no"]

/-- The words for true. -/
def trueWords : List String := ["1", "on", "t", "true", "y", "yes"]

/-- The boolean that a word stands for. -/
def boolOfWord? (s : String) : Option Bool :=
  if trueWords.contains (lowerAscii s) then some true
  else if falseWords.contains (lowerAscii s) then some false
  else none

/-- Whether an integer fits into a word of 64 bits. -/
def fitsWord (n : Int) : Bool := -0x8000000000000000 ≤ n && n ≤ 0x7fffffffffffffff

/-- The boolean that a number stands for; a number too large for a word is not even looked at. -/
def boolOfInt (n : Int) : Except Defect Bool :=
  if n = 1 then .ok true
  else if n = 0 then .ok false
  else .error (if fitsWord n then .unreadableBool else .notBool)

/-- Reads a boolean. -/
def readBool : Value → Except Defect Bool
  | .bool b => .ok b
  | .str s => (boolOfWord? s).elim (.error .unreadableBool) .ok
  | .int n => boolOfInt n
  | .float x =>
    match x.toInt? with
    | some n => boolOfInt n
    | none => .error .notBool
  | _ => .error .notBool

/-- Whether a character around a number is passed over; the separators of records are not. -/
def isPadding (c : Char) : Bool := Text.isBlank c && !(28 ≤ c.toNat && c.toNat ≤ 31)

/-- The text without what is passed over at both ends. -/
def dropPadding (cs : List Char) : List Char :=
  ((cs.dropWhile isPadding).reverse.dropWhile isPadding).reverse

/-- The text without single underscores between its characters; others are faults. -/
def dropUnderscores? : List Char → Option (List Char)
  | [] => some []
  | '_' :: _ => none
  | [c] => some [c]
  | c :: '_' :: d :: cs => (dropUnderscores? (d :: cs)).map (c :: ·)
  | c :: cs => (dropUnderscores? cs).map (c :: ·)

/-- A text of digits without a fraction of zeros at its end. -/
def dropZeroFraction (cs : List Char) : List Char :=
  let behind := cs.dropWhile (· != '.')
  if behind ≠ [] ∧ (behind.drop 1).all (· == '0') then cs.takeWhile (· != '.') else cs

/-- The digits behind leading zeros and the underscores among them; `last` is the character before.
    One of them is kept where no digit of another kind follows. -/
def behindZeros? (last : Char) : List Char → Option (List Char)
  | [] => some [last]
  | c :: cs =>
    if c = '0' ∨ c = '_' then behindZeros? c cs
    else if Decimal.isDigit c then some (c :: cs)
    else if c = '.' then some (last :: c :: cs)
    else none

/-- The text of an integer without leading zeros; a sign in front keeps them. -/
def dropLeadingZeros? : List Char → Option (List Char)
  | '0' :: cs => behindZeros? '0' cs
  | c :: cs => if c = '-' ∨ Decimal.isDigit c then some (c :: cs) else none
  | [] => none

/-- The greatest number of characters of an integer. -/
def intLimit : Nat := 4300

/-- The integer that is written in its plain form: digits that do not begin with a zero, behind a
    minus sign if it is negative. -/
def plainInt? (cs : List Char) : Option (Except Defect Int) :=
  let (negative, digits) := match cs with
    | '-' :: ds => (true, ds)
    | ds => (false, ds)
  if digits.isEmpty || !digits.all Decimal.isDigit then none
  else if digits.head? = some '0' ∧ digits.length ≠ 1 then none
  else if intLimit < cs.length then some (.error .tooLongInt)
  else some (.ok (if negative then -(Decimal.value digits) else Decimal.value digits))

/-- The text of an integer in its plain form: without padding, a plus sign, leading zeros, a
    fraction of zeros, and underscores. -/
def plainForm? (cs : List Char) : Option (List Char) := do
  let cs ← match dropPadding cs with
    | '+' :: '-' :: _ => none
    | '+' :: cs => some cs
    | cs => some cs
  dropUnderscores? (dropZeroFraction (← dropLeadingZeros? cs))

/-- The integer that a text spells. -/
def intOfText (s : String) : Except Defect Int :=
  ((plainInt? s.toList).or ((plainForm? s.toList).bind plainInt?)).getD (.error .unreadableInt)

/-- Reads an integer. -/
def readInt : Value → Except Defect Int
  | .int n => .ok n
  | .bool b => .ok (if b then 1 else 0)
  | .float x =>
    match x.toInt? with
    | some n => if fitsWord n then .ok n else .error .tooLongInt
    | none =>
      match x with
      | .finite .. => .error .fractionalInt
      | _ => .error .notFinite
  | .str s => intOfText s
  | _ => .error .notInt

/-- The number that a text names or spells, what is passed over around it aside. -/
def floatOfText? (s : String) : Option Binary64 :=
  let cs := dropPadding s.toList
  let (negative, word) := Decimal.takeSign cs
  let word := lowerAscii (String.ofList word)
  if word = "inf" ∨ word = "infinity" then some (.infinite negative)
  else if word = "nan" then some .nan
  else (Decimal.parseNumber? cs).or ((dropUnderscores? s.toList).bind Decimal.parseNumber?)

/-- Reads a number. -/
def readFloat : Value → Except Defect Binary64
  | .float x => .ok x
  | .int n =>
    match Binary64.ofInt n with
    | .infinite _ => .error .notFloat
    | x => .ok x
  | .bool b => .ok (.ofInt (if b then 1 else 0))
  | .str s => (floatOfText? s).elim (.error .unreadableFloat) .ok
  | _ => .error .notFloat

/-- Reads a text. -/
def readText : Value → Except Defect String
  | .str s => .ok s
  | _ => .error .notText

/-- Reads a map. -/
def readMap (source : Source) : Value → Except Defect Entries
  | .map entries => .ok entries
  | _ => .error (if source = .json then .notJsonObject else .notMap)

/-- The outcome of reading a part of a value: the part, or everything that is wrong with it. -/
abbrev Read (α : Type) := Except (List Issue) α

/-- The issues of a reading. -/
def issuesOf {α : Type} : Read α → List Issue
  | .ok _ => []
  | .error issues => issues

/-- A reading whose only issue is about the value as a whole. -/
def whole {α : Type} : Except Defect α → Read α
  | .ok a => .ok a
  | .error defect => .error [⟨defect, []⟩]

/-- Reads the texts of a list; all items that are not texts are named. -/
def readTexts (source : Source) : Value → Read (List String)
  | .list items =>
    let wrong := (items.zipIdx).filterMap fun (item, n) =>
      match readText item with
      | .ok _ => none
      | .error defect => some ⟨defect, [.index n]⟩
    if wrong.isEmpty then .ok (Value.strings items) else .error wrong
  | _ => .error [⟨if source = .json then .notJsonArray else .notList, []⟩]

/-- Reads a field of a map that may be missing. -/
def readField {α : Type} (entries : Entries) (name : String) (fallback : Read α)
    (read : Value → Read α) : Read α :=
  let found := match entries.get? name with
    | some v => read v
    | none => fallback
  found.mapError fun issues => issues.map (Issue.within (.field name))

/-- The fallback of a field that must be there. -/
def required {α : Type} : Read α := .error [⟨.missing, []⟩]

end Scaffold.Schema
