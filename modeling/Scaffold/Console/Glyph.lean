import Scaffold.Text.CellWidth

/-!
# Glyphs

A text on a console is a list of characters, each of which may be the first of a run in another
style.  A line is broken as a whole, but the cells of its runs are counted run by run when it is
printed, so that a joiner at the end of one run does not reach into the next.
-/

namespace Scaffold.Console

open Text

/-- A character on a console. -/
structure Glyph where
  char : Char
  /-- Whether a run in another style begins here. -/
  opensRun : Bool
  /-- Whether it stands within a style. -/
  isStyled : Bool
  deriving DecidableEq, Repr

/-- A character without a style. -/
def Glyph.plain (c : Char) : Glyph := ⟨c, false, false⟩

/-- A glyph that goes on in the style of another one. -/
def Glyph.continued (g : Glyph) (c : Char) : Glyph := { g with char := c, opensRun := false }

/-- A text in one style, or in none. -/
def glyphs (isStyled : Bool) (cs : List Char) : List Glyph :=
  cs.map fun c => ⟨c, false, isStyled⟩

/-- The characters of some glyphs. -/
def charsOf (gs : List Glyph) : List Char := gs.map Glyph.char

/-- The text with a run beginning at its front. -/
def openRun : List Glyph → List Glyph
  | [] => []
  | g :: gs => { g with opensRun := true } :: gs

/-- The number of cells of glyphs that are taken as one text. -/
def glyphCells (gs : List Glyph) : Nat := cellsWidth (charsOf gs)

/-- The runs of a line. -/
def runs : List Glyph → List (List Char)
  | [] => []
  | g :: gs =>
    match runs gs, gs.head?.map Glyph.opensRun with
    | run :: rest, some false => (g.char :: run) :: rest
    | rest, _ => [g.char] :: rest

theorem flatten_runs (gs : List Glyph) : (runs gs).flatten = charsOf gs := by
  induction gs with
  | nil => rfl
  | cons g gs ih =>
    unfold runs
    cases h : runs gs with
    | nil =>
      rw [h] at ih
      simp only [charsOf, List.map_cons, List.flatten_cons, List.flatten_nil] at ih ⊢
      rw [← ih]
      rfl
    | cons run rest =>
      rw [h] at ih
      simp only [charsOf, List.map_cons, List.flatten_cons] at ih ⊢
      split
      · rename_i equal _
        cases equal
        simp [← ih]
      · simp [← ih]

/-- A text cut or padded to a number of cells. -/
def fitCells (width : Nat) (cs : List Char) : List Char :=
  if width ≤ cellsWidth cs then
    if cellsWidth cs = width then cs else takeCells width cs
  else padCells width cs

/-- The runs that begin within a width, the last of them cut there; `used` cells are taken
    before. -/
def cropRuns (width used : Nat) : List (List Char) → List Char
  | [] => []
  | run :: rest =>
    if used + cellsWidth run < width then run ++ cropRuns width (used + cellsWidth run) rest
    else fitCells (width - used) run

/-- The number of cells of a line, counted run by run. -/
def runCells (line : List Glyph) : Nat :=
  (runs line).foldl (fun cells run => cells + cellsWidth run) 0

/-- A line as it is printed: no run reaches over the width. -/
def cropLine (width : Nat) (line : List Glyph) : List Char :=
  if runCells line ≤ width then charsOf line else cropRuns width 0 (runs line)

/-- The line with spaces behind it, up to a number of cells; they are in no style. -/
def padLine (width : Nat) (line : List Glyph) : List Glyph :=
  let spaces := List.replicate (width - glyphCells line) (Glyph.plain ' ')
  line ++ if line.getLast?.any Glyph.isStyled then openRun spaces else spaces

/-- A line as it is printed in a cell of a table: padded as a whole, then run by run. -/
def fillLine (width : Nat) (line : List Glyph) : List Char :=
  let padded := padLine width line
  cropLine width padded ++ List.replicate (width - runCells padded) ' '

end Scaffold.Console
