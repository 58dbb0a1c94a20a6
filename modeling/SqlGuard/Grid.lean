import SqlGuard.Answer
import SqlGuard.Text.Blank
import SqlGuard.Text.Width

/-!
# Answers drawn as a grid

Every column is as wide as its widest text, numbers stand at its right-hand
side, and a control character in a cell is shown as a blank. A row that is too
short is filled with empty cells; cells beyond the last column are not shown.

The grid models `ResultTable`.
-/
namespace SqlGuard.Grid

open SqlGuard.Text

/-- A text in its column. -/
structure Cell where
  text : List Char
  atRight : Bool
  deriving DecidableEq, Repr

/-- The text of a value, on one line. Models `cell_text`. -/
def cellText (v : Value) : List Char :=
  v.display.toList.map fun c => if isControl c then ' ' else c

def Cell.ofColumn (c : Column) : Cell := ⟨c.name.toList, false⟩

def Cell.ofValue (v : Value) : Cell := ⟨cellText v, v.isNumeric⟩

def Cell.empty : Cell := ⟨[], false⟩

/-- The cells of a row, one for each of the columns. -/
def cellsOf (columns : Nat) (row : List Value) : List Cell :=
  (row.take columns).map Cell.ofValue ++ List.replicate (columns - row.length) Cell.empty

/-- The widths of columns after one more row. -/
def widen : List Nat → List Cell → List Nat
  | w :: widths, cell :: cells => max w (width cell.text) :: widen widths cells
  | widths, _ => widths

/-- The widths of the columns of a grid, from its rows of cells. Models
`calculate_column_widths`. -/
def widths (header : List Cell) (rows : List (List Cell)) : List Nat :=
  rows.foldl widen (header.map fun cell => width cell.text)

def border (fill : Char) (widths : List Nat) : List Char :=
  '+' :: widths.flatMap fun w => List.replicate (w + 2) fill ++ ['+']

/-- One text between blanks, with a bar behind it. -/
def field (w : Nat) (cell : Cell) : List Char :=
  let padding := List.replicate (w - width cell.text) ' '
  ' ' :: ((if cell.atRight then padding ++ cell.text else cell.text ++ padding) ++ [' ', '|'])

/-- A line of texts between bars. Models `render_cells`. -/
def cellLine (widths : List Nat) (cells : List Cell) : List Char :=
  '|' :: (List.zipWith field widths cells).flatten

/-- The lines of a grid. -/
def draw (header : List Cell) (rows : List (List Cell)) : List (List Char) :=
  let ws := widths header rows
  let thin := border '-' ws
  [thin, cellLine ws header, border '=' ws] ++ rows.flatMap fun row => [cellLine ws row, thin]

/-- The lines of the grid of an answer. An answer without columns has none.
Models `render_to_lines`. -/
def lines (a : Answer) : List (List Char) :=
  if a.columns.isEmpty then []
  else draw (a.columns.map Cell.ofColumn) (a.rows.map (cellsOf a.columns.length))

/-- The grid of an answer as one text. -/
def render (a : Answer) : String :=
  "\n".intercalate ((lines a).map String.ofList)

end SqlGuard.Grid
