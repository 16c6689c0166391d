import Scaffold.Console.Glyph
import Scaffold.Text.Blank

/-!
# Lines of a fixed width

A line that is too wide is broken before the word that does not fit; a word wider than the line is
cut.  White space stays with the word before it, and may hang over the edge, where it is dropped.
-/

namespace Scaffold.Console

open Text

/-- What becomes of a word that is wider than the line. -/
inductive Overflow where
  /-- It is cut, and goes on in the next line. -/
  | fold
  /-- It ends with an ellipsis. -/
  | ellipsis
  deriving DecidableEq, Repr

/-- The text without the control characters that move the cursor. -/
def dropControls (cs : List Char) : List Char :=
  cs.filter fun c => !([7, 8, 11, 12, 13].contains c.toNat)

/-- The distance between tab stops. -/
def tabStop : Nat := 8

/-- The line with each tab turned into the spaces up to the next tab stop.  `part` is what was read
    since the last tab, in reverse order, and `column` cells stand before it. -/
def expandTabsFrom (column : Nat) (part : List Glyph) : List Glyph → List Glyph
  | [] => part.reverse
  | g :: gs =>
    if g.char = '\t' then
      let filled := part.reverse ++ [{ g with char := ' ' }]
      let column := column + glyphCells filled
      let missing := (tabStop - column % tabStop) % tabStop
      filled ++ List.replicate missing (g.continued ' ') ++ expandTabsFrom (column + missing) [] gs
    else expandTabsFrom column (g :: part) gs

/-- The line with each tab turned into the spaces up to the next tab stop. -/
def expandTabs (line : List Glyph) : List Glyph := expandTabsFrom 0 [] line

/-- Whether a glyph is white space. -/
def Glyph.isBlank (g : Glyph) : Bool := Text.isBlank g.char

/-- The words of a line, each with the white space around it; white space before the first word
    belongs to it. -/
def words : (fuel : Nat) → List Glyph → List (List Glyph)
  | 0, _ => []
  | fuel + 1, gs =>
    let blanks := gs.takeWhile Glyph.isBlank
    let rest := gs.dropWhile Glyph.isBlank
    let body := rest.takeWhile fun g => !g.isBlank
    let rest := rest.dropWhile fun g => !g.isBlank
    if body.isEmpty then []
    else (blanks ++ body ++ rest.takeWhile Glyph.isBlank) ::
      words fuel (rest.dropWhile Glyph.isBlank)

/-- Clusters cut into texts of at most `width` cells; `used` cells are taken by the text in
    hand.  The answer is the numbers of their characters. -/
def chop (width used : Nat) : List Cluster → List Nat
  | [] => [0]
  | k :: ks =>
    if width < used + k.cells then
      match chop width k.cells ks with
      | piece :: pieces => 0 :: (k.chars.length + piece) :: pieces
      | [] => [0, k.chars.length]
    else
      match chop width (used + k.cells) ks with
      | piece :: pieces => (k.chars.length + piece) :: pieces
      | [] => [k.chars.length]

/-- A list cut into pieces of the given lengths. -/
def cutPieces {α : Type} : (lengths : List Nat) → List α → List (List α)
  | [], _ => []
  | n :: ns, xs => xs.take n :: cutPieces ns (xs.drop n)

/-- The state of breaking a line: the finished lines and the line in hand, both in reverse
    order, and the cells that the line in hand takes. -/
structure Breaking where
  lines : List (List Glyph)
  line : List Glyph
  used : Nat

/-- Begins a new line with a text. -/
def Breaking.newLine (b : Breaking) (text : List Glyph) : Breaking :=
  ⟨b.line :: b.lines, text.reverse, glyphCells text⟩

/-- Goes on in the line in hand. -/
def Breaking.extend (b : Breaking) (text : List Glyph) : Breaking :=
  ⟨b.lines, text.reverse ++ b.line, b.used + glyphCells text⟩

/-- Whether nothing has been placed yet. -/
def Breaking.isFresh (b : Breaking) : Bool := b.lines.isEmpty && b.line.isEmpty

/-- Places a text at the beginning of a line. -/
def Breaking.placeFirst (b : Breaking) (text : List Glyph) : Breaking :=
  if b.isFresh then ⟨[], text.reverse, glyphCells text⟩ else b.newLine text

/-- The line without the white space at its end. -/
def trimLineEnd (line : List Glyph) : List Glyph :=
  (line.reverse.dropWhile Glyph.isBlank).reverse

/-- Places a word. -/
def Breaking.place (width : Nat) (overflow : Overflow) (b : Breaking) (word : List Glyph) :
    Breaking :=
  let needed := glyphCells (trimLineEnd word)
  if b.used + needed ≤ width then b.extend word
  else if width < needed then
    match overflow with
    | .fold => (cutPieces (chop width 0 (clusters (charsOf word))) word).foldl Breaking.placeFirst b
    | .ellipsis => b.placeFirst word
  else if b.used = 0 then b.extend word
  else b.newLine word

/-- The line without the white space at its end that is too much, counted in characters. -/
def dropOverhang (width : Nat) (line : List Glyph) : List Glyph :=
  let blanks := line.length - (trimLineEnd line).length
  line.take (line.length - min blanks (line.length - width))

/-- The beginning of a line that takes a number of cells. -/
def takeLine (width : Nat) (line : List Glyph) : List Glyph :=
  List.zipWith (fun g c => { g with char := c }) line (takeCells width (charsOf line))

/-- The line shortened to the width. -/
def truncate (width : Nat) (overflow : Overflow) (line : List Glyph) : List Glyph :=
  if glyphCells line ≤ width then line
  else
    match overflow with
    | .fold => takeLine width line
    | .ellipsis => takeLine (width - 1) line ++ [.plain '…']

/-- The lines into which a line is broken. -/
def wrapLine (width : Nat) (overflow : Overflow) (line : List Glyph) : List (List Glyph) :=
  let line := expandTabs line
  let ws := words (line.length + 1) line
  let lines :=
    if ws.isEmpty then [line]
    else
      let b := ws.foldl (Breaking.place width overflow) ⟨[], [], 0⟩
      ((b.line :: b.lines).map List.reverse).reverse
  lines.map fun l => truncate width overflow (dropOverhang width l)

/-- The lines of a text without control characters on a console of the given width. -/
def wrap (width : Nat) (overflow : Overflow) (text : List Glyph) : List (List Glyph) :=
  (text.splitOnP fun g => g.char == '\n').flatMap (wrapLine width overflow)

end Scaffold.Console
