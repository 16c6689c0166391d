import Scaffold.Console.Markup
import Scaffold.Console.Wrap

/-!
# Console output

What is printed on a console without colours: texts as they are, marked-up texts, and tables of one
column.
-/

namespace Scaffold.Console

open Text

/-- The number of columns where nothing else is said. -/
def defaultWidth : Nat := 120

/-- Lines, each with its end. -/
def joinLines (lines : List (List Char)) : List Char := lines.flatMap (· ++ ['\n'])

/-- A text printed: its lines, each cropped to the width. -/
def printGlyphs (width : Nat) (text : List Glyph) : List Char :=
  joinLines ((wrap width .fold text).map (cropLine width))

/-- A text printed as it is. -/
def printText (width : Nat) (text : List Char) : List Char :=
  printGlyphs width (glyphs false (dropControls text))

/-- A marked-up text printed. -/
def printMarkup (width : Nat) (text : List Char) : Except MarkupFault (List Char) :=
  (readMarkup text).map (printGlyphs width)

/-- All marked-up texts printed one below the other on a console whose width is given as a number;
    zero stands for the default, and on a console without room nothing appears. -/
def printAll (width : Int) (texts : List (List Char)) : Except MarkupFault (List Char) := do
  let lines ← texts.mapM readMarkup
  if width < 0 then return []
  let width := if width = 0 then defaultWidth else width.toNat
  return lines.flatMap (printGlyphs width)

/-- Whether a character ends a line where the width of a text is measured. -/
def endsMeasuredLine (c : Char) : Bool :=
  c == '\n' || [0x1c, 0x1d, 0x1e, 0x85, 0x2028, 0x2029].contains c.toNat

/-- The number of cells of the widest line of a text. -/
def widest (text : List Char) : Nat :=
  ((text.splitOnP endsMeasuredLine).map cellsWidth).foldl max 0

/-- A line of a table: a text between two borders. -/
def tableLine (border : Char) (width : Nat) (line : List Glyph) : List Char :=
  border :: fillLine width line ++ [border]

/-- A rule of a table. -/
def tableRule (left fill right : Char) (width : Nat) : List Char :=
  left :: List.replicate width fill ++ [right]

/-- The lines of a table with one column; a cell that is too wide ends with an ellipsis. -/
def tableLines (header : List Glyph) (cells : List (List Glyph)) : List (List Char) :=
  let widths := (header :: cells).map fun cell => widest (charsOf cell)
  let width := min (widths.foldl max 0) (defaultWidth - 2)
  let rows := cells.flatMap fun cell =>
    (wrap width .ellipsis cell).map (tableLine '│' width)
  [tableRule '┏' '━' '┓' width] ++ (wrap width .ellipsis header).map (tableLine '┃' width) ++
    [tableRule '┡' '━' '┩' width] ++ rows ++ [tableRule '└' '─' '┘' width]

end Scaffold.Console
