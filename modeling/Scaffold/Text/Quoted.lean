import Scaffold.Text.Category.Table

/-!
# Quoted text

A text is shown inside a message between quotes, with everything that would not be seen, or
would end the quotation, written as an escape.
-/

namespace Scaffold.Text

/-- The lower-case hexadecimal digit of a number below 16. -/
def hexDigit (n : Nat) : Char := "0123456789abcdef".toList.getD n '0'

/-- The last `width` hexadecimal digits of `n`. -/
def hexDigits : Nat → Nat → List Char
  | 0, _ => []
  | width + 1, n => hexDigits width (n / 16) ++ [hexDigit (n % 16)]

theorem length_hexDigits (width n : Nat) : (hexDigits width n).length = width := by
  induction width generalizing n with
  | zero => rfl
  | succ w ih => simp [hexDigits, ih]

namespace Quoted

/-- The quotation mark for `cs`: the single one, unless only the double one avoids escapes. -/
def mark (cs : List Char) : Char := if cs.contains '\'' && !cs.contains '"' then '"' else '\''

/-- A code point as an escape with the fewest of two, four and eight digits. -/
def codeEscape (c : Char) : List Char :=
  let n := c.toNat
  if n < 0x100 then '\\' :: 'x' :: hexDigits 2 n
  else if n < 0x10000 then '\\' :: 'u' :: hexDigits 4 n
  else '\\' :: 'U' :: hexDigits 8 n

/-- How one character is written between two `delimiter`s. -/
def encodeChar (delimiter c : Char) : List Char :=
  if c == delimiter || c == '\\' then ['\\', c]
  else if c == '\n' then ['\\', 'n']
  else if c == '\r' then ['\\', 'r']
  else if c == '\t' then ['\\', 't']
  else if isPrintable c then [c]
  else codeEscape c

/-- The quoted form of a list of characters. -/
def encode (cs : List Char) : List Char :=
  mark cs :: cs.flatMap (encodeChar (mark cs)) ++ [mark cs]

end Quoted

/-- The quoted form of a text. -/
def quote (s : String) : String := String.ofList (Quoted.encode s.toList)

/-- The quoted form of a single character. -/
def quoteChar (c : Char) : String := String.ofList (Quoted.encode [c])

end Scaffold.Text
