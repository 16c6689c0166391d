import Scaffold.CommandLine.Options

/-!
# Help texts

Help lists options and commands in two columns.  What they are for is broken into lines between
words, so that the text stays within a width.
-/

namespace Scaffold.CommandLine

/-- The width of help texts. -/
def helpWidth : Nat := 78

/-- The greatest width of the first column. -/
def columnLimit : Nat := 30

/-- Words in lines of at most `width` characters; `line` is the line so far. -/
def fillLines (width : Nat) (line : String) : List String → List String
  | [] => [line]
  | word :: words =>
    if line = "" then fillLines width word words
    else if line.length + 1 + word.length ≤ width then
      fillLines width (line ++ " " ++ word) words
    else line :: fillLines width word words

/-- The words of a text. -/
def wordsOf (text : String) : List String :=
  ((text.toList.splitOn ' ').filter (· ≠ [])).map String.ofList

/-- Spaces. -/
def spaces (n : Nat) : String := String.ofList (List.replicate n ' ')

/-- A row of two columns; `column` is where the second one begins. -/
def row (column : Nat) (first second : String) : String :=
  let lines := fillLines (helpWidth - column - 2) "" (wordsOf second)
  "  " ++ first ++ spaces (column - first.length) ++
    ("\n" ++ spaces (column + 2)).intercalate lines ++ "\n"

/-- A list in two columns. -/
def table (rows : List (String × String)) : String :=
  let widest := (rows.map (·.1.length)).foldl max 0
  String.join (rows.map fun (first, second) => row (min widest columnLimit + 2) first second)

/-- The text up to a length; a longer one ends with dots between words. -/
def shortened (limit : Nat) (text : String) : String :=
  if text.length ≤ limit then text
  else ((fillLines (limit - 3) "" (wordsOf text)).headD "") ++ "..."

/-- The names of an option, with the name of its value. -/
def OptionSpec.names (o : OptionSpec) : String :=
  let short := (o.short.map fun c => "-" ++ String.ofList [c] ++ ", ").getD ""
  let value := (o.value.map (" " ++ ·)).getD ""
  short ++ o.long ++ value

/-- The help on options. -/
def optionHelp (options : List OptionSpec) : String :=
  "Options:\n" ++ table (options.map fun o => (o.names, o.help))

end Scaffold.CommandLine
