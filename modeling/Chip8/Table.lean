import Chip8.Text.Width

/-!
Tables drawn with box characters. A table has a heading over each column and any number of rows; a
column is as wide as its widest cell, and every cell has a blank on each side. Cells may have
several lines. Before a cell is measured its tabs become blanks and a carriage return takes effect:
what follows it on the line overwrites what stands there.
-/

namespace Chip8.Table

/-- The side of its column a cell stands on. -/
inductive Side where
  | left
  | right
  deriving DecidableEq, Repr

structure Column where
  heading : Bytes
  side : Side
  deriving DecidableEq, Repr

/-! ### Cells -/

/-- The text with four blanks for each tab. -/
def expandTabs (t : Bytes) : Bytes := t.flatMap fun b => if b = 0x09 then text "    " else [b]

/-- The text with LF for each CR LF. -/
def joinLineEnds : Bytes → Bytes
  | [] => []
  | b :: rest => if b = 0x0D ∧ rest.head? = some 0x0A then joinLineEnds rest else b :: joinLineEnds rest

def replacement : Glyph := .char (Char.ofNat 0xFFFD)

/-- What a line shows whose characters overwrite each other after a carriage return: `before` is what
the cursor passed, last first, and `under` what it stands on. -/
def overwrite (before under : List Glyph) : List Glyph → List Glyph
  | [] => before.reverse ++ under
  | g :: rest =>
    if g = .char (Char.ofNat 0x0D) then overwrite [] (before.reverse ++ under) rest
    else overwrite ((match g with | .char c => .char c | .stray _ => replacement) :: before)
      (under.drop 1) rest

/-- The line with its carriage returns carried out. -/
def settleLine (line : Bytes) : Bytes :=
  if line.contains 0x0D then (overwrite [] [] (Utf8.glyphs line)).flatMap Glyph.bytes else line

def cellLines (cell : Bytes) : List Bytes :=
  (Bytes.splitOn 0x0A (joinLineEnds (expandTabs cell))).map settleLine

def blanks (n : Nat) : Bytes := List.replicate n 0x20

def isBlankByte (b : UInt8) : Bool := b = 0x20

/-- A line of a cell filled up to `width` columns. Blanks at its open side are dropped first. -/
def place (side : Side) (width : Nat) (line : Bytes) : Bytes :=
  match side with
  | .left =>
    let line := (line.reverse.dropWhile isBlankByte).reverse
    line ++ blanks (width - displayWidth line)
  | .right =>
    let line := line.dropWhile isBlankByte
    blanks (width - displayWidth line) ++ line

/-! ### Rows and rules -/

def textLine (sides : List Side) (widths : List Nat) (cells : List Bytes) : Bytes :=
  let placed := (sides.zip (widths.zip cells)).map fun (side, width, cell) =>
    text " " ++ place side width cell ++ text " "
  text "│" ++ Bytes.join (text "│") placed ++ text "│\n"

def rule (left cross right : String) (widths : List Nat) : Bytes :=
  let pieces := widths.map fun width => (List.replicate (width + 2) (text "─")).flatten
  text left ++ Bytes.join (text cross) pieces ++ text right ++ text "\n"

/-- The lines of a row: as many as its tallest cell has. -/
def rowLines (sides : List Side) (widths : List Nat) (cells : List (List Bytes)) : Bytes :=
  let height := (cells.map List.length).foldl max 0
  (List.range height).flatMap fun n => textLine sides widths (cells.map fun lines => lines.getD n [])

/-- The columns a cell asks for. Its lines are measured together, since an escape sequence may run
from one to the next. -/
def cellWidth (lines : List Bytes) : Nat := longestLine (Bytes.join (text "\n") lines)

def columnWidths (count : Nat) (rows : List (List (List Bytes))) : List Nat :=
  (List.range count).map fun n => (rows.map fun cells => cellWidth (cells.getD n [])).foldl max 0

/-- A way to draw rows of cells under columns. -/
abbrev Renderer := List Column → List (List Bytes) → Bytes

def draw : Renderer := fun columns rows =>
  let sides := columns.map Column.side
  let heading := columns.map fun column => cellLines column.heading
  let body := rows.map fun cells => cells.map cellLines
  let widths := columnWidths columns.length (heading :: body)
  rule "┌" "┬" "┐" widths ++ rowLines sides widths heading ++ rule "├" "┼" "┤" widths ++
    body.flatMap (rowLines sides widths) ++ rule "└" "┴" "┘" widths

end Chip8.Table
