import Scaffold.Json.Printer
import Scaffold.Text.Quoted

/-!
# Values shown to people

A text is shown as it is; inside a list or a map it is quoted, so that the items can be told apart.
-/

namespace Scaffold.Json.Value

/-- Numbers as they are shown to people: positional down to four places, padded signed
    exponents. -/
def shownNumbers : NumberStyle :=
  { Layout.plainNumbers with infinity := "inf", negativeInfinity := "-inf", notANumber := "nan" }

mutual

/-- A value as an item. -/
def shownItem : Value → String
  | .null => "None"
  | .bool b => if b then "True" else "False"
  | .int n => toString n
  | .float x => shownNumbers.format x
  | .str s => Text.quote s
  | .list items => "[" ++ shownItems items ++ "]"
  | .map entries => "\x7b" ++ shownEntries entries ++ "\x7d"

/-- The items of a list. -/
def shownItems : List Value → String
  | [] => ""
  | [v] => shownItem v
  | v :: rest => shownItem v ++ ", " ++ shownItems rest

/-- The entries of a map. -/
def shownEntries : List (String × Value) → String
  | [] => ""
  | [(k, v)] => Text.quote k ++ ": " ++ shownItem v
  | (k, v) :: rest => Text.quote k ++ ": " ++ shownItem v ++ ", " ++ shownEntries rest

end

/-- A value by itself. -/
def shown : Value → String
  | .str s => s
  | v => v.shownItem

/-- The name of the kind of a value. -/
def kindName : Value → String
  | .null => "NoneType"
  | .bool _ => "bool"
  | .int _ => "int"
  | .float _ => "float"
  | .str _ => "str"
  | .list _ => "list"
  | .map _ => "dict"

/-- Whether a value counts as something: zero, empty and null values do not. -/
def isPresent : Value → Bool
  | .null => false
  | .bool b => b
  | .int n => n != 0
  | .float x => !x.isZero
  | .str s => s ≠ ""
  | .list items => !items.isEmpty
  | .map entries => !entries.isEmpty

end Scaffold.Json.Value
