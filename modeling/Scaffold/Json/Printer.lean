import Scaffold.Json.Value
import Scaffold.Number.Style
import Scaffold.Text.Quoted

/-!
# Writing JSON

A layout says how entries are separated, which characters are escaped and how numbers look.
Writing is compact, on one line, or indented with one item on each line.
-/

namespace Scaffold.Json

/-- The decisions of a JSON writer. -/
structure Layout where
  comma : String
  colon : String
  /-- Whether characters beyond ASCII are written as escapes. -/
  asciiOnly : Bool
  numbers : NumberStyle

namespace Layout

/-- Positional down to four places, padded signed exponents; values that are not finite are
    written as words. -/
def plainNumbers : NumberStyle where
  lowest := -4
  exponentDigits := 2
  infinity := "Infinity"
  negativeInfinity := "-Infinity"
  notANumber := "NaN"

/-- Positional down to five places, signed exponents without padding; values that are not finite
    are null. -/
def recordNumbers : NumberStyle where
  lowest := -5
  exponentDigits := 1
  infinity := "null"
  negativeInfinity := "null"
  notANumber := "null"

/-- ASCII on one line without spaces. -/
def dense : Layout := ⟨",", ":", true, plainNumbers⟩

/-- ASCII on one line with a space behind each separator. -/
def spaced : Layout := ⟨", ", ": ", true, plainNumbers⟩

/-- The form of a record on one line. -/
def record : Layout := ⟨",", ":", false, recordNumbers⟩

/-- The form of a record on many lines. -/
def indentedRecord : Layout := ⟨",", ": ", false, recordNumbers⟩

/-- A code unit as an escape. -/
def unitEscape (n : Nat) : List Char := '\\' :: 'u' :: Text.hexDigits 4 n

/-- How one character is written inside a string. -/
def encodeChar (layout : Layout) (c : Char) : List Char :=
  let n := c.toNat
  if c = '"' then ['\\', '"']
  else if c = '\\' then ['\\', '\\']
  else if c = '\n' then ['\\', 'n']
  else if c = '\r' then ['\\', 'r']
  else if c = '\t' then ['\\', 't']
  else if n = 8 then ['\\', 'b']
  else if n = 12 then ['\\', 'f']
  else if n < 0x20 then unitEscape n
  else if layout.asciiOnly && 0x7f ≤ n then
    if n < 0x10000 then unitEscape n
    else
      unitEscape (0xd800 + (n - 0x10000) / 0x400) ++ unitEscape (0xdc00 + (n - 0x10000) % 0x400)
  else [c]

/-- A string between quotation marks. -/
def quoted (layout : Layout) (s : String) : String :=
  "\"" ++ String.ofList (s.toList.flatMap layout.encodeChar) ++ "\""

/-- A value that is neither a list nor a map. -/
def scalar (layout : Layout) : Value → String
  | .null => "null"
  | .bool b => if b then "true" else "false"
  | .int n => toString n
  | .float x => layout.numbers.format x
  | .str s => layout.quoted s
  | .list _ => "[]"
  | .map _ => "{}"

mutual

/-- A value on one line. -/
def compact (layout : Layout) : Value → String
  | .list items => "[" ++ compactItems layout items ++ "]"
  | .map entries => "\x7b" ++ compactEntries layout entries ++ "\x7d"
  | v => layout.scalar v

/-- The items of a list, separated. -/
def compactItems (layout : Layout) : List Value → String
  | [] => ""
  | [v] => compact layout v
  | v :: rest => compact layout v ++ layout.comma ++ compactItems layout rest

/-- The entries of a map, separated. -/
def compactEntries (layout : Layout) : List (String × Value) → String
  | [] => ""
  | [(k, v)] => layout.quoted k ++ layout.colon ++ compact layout v
  | (k, v) :: rest =>
    layout.quoted k ++ layout.colon ++ compact layout v ++ layout.comma ++
      compactEntries layout rest

end

/-- A line feed and the indentation of `depth` levels. -/
def newline (depth : Nat) : String := String.ofList ('\n' :: List.replicate (2 * depth) ' ')

mutual

/-- A value at `depth` with its items on lines of their own; empty ones stay closed. -/
def indented (layout : Layout) (depth : Nat) : Value → String
  | .list (v :: rest) =>
    "[" ++ indentedItems layout (depth + 1) (v :: rest) ++ newline depth ++ "]"
  | .map (e :: rest) =>
    "\x7b" ++ indentedEntries layout (depth + 1) (e :: rest) ++ newline depth ++ "\x7d"
  | v => layout.scalar v

/-- The items of a list at `depth`, each on its line. -/
def indentedItems (layout : Layout) (depth : Nat) : List Value → String
  | [] => ""
  | [v] => newline depth ++ indented layout depth v
  | v :: rest =>
    newline depth ++ indented layout depth v ++ "," ++ indentedItems layout depth rest

/-- The entries of a map at `depth`, each on its line. -/
def indentedEntries (layout : Layout) (depth : Nat) : List (String × Value) → String
  | [] => ""
  | [(k, v)] => newline depth ++ layout.quoted k ++ layout.colon ++ indented layout depth v
  | (k, v) :: rest =>
    newline depth ++ layout.quoted k ++ layout.colon ++ indented layout depth v ++ "," ++
      indentedEntries layout depth rest

end

end Layout

end Scaffold.Json
