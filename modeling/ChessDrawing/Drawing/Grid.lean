import ChessDrawing.Board.Piece
import ChessDrawing.Board.Square
import ChessDrawing.Number.Binary64

/-!
# The grid of a drawing

The squares of a board are the cells of a grid whose first row is at the top and whose first column
is at the left.  The side at the bottom decides which square is drawn in which cell; a half turn of
the board exchanges the two views.  A cell is as wide as an eighth of the board.
-/

namespace ChessDrawing

/-- The width of a board. -/
inductive Width where
  /-- A whole number of pixels. -/
  | pixels (count : Int)
  /-- A double. -/
  | length (value : Binary64)
  deriving DecidableEq

namespace Width

/-- The side of a square, an eighth of the width. -/
def squareSize : Width → Except GeometryFault Binary64
  | .pixels count =>
      match Binary64.ofQuotient? count 8 with
      | some size => .ok size
      | none => .error .widthTooLarge
  | .length value => .ok (value / Binary64.ofDecimal 8 0)

end Width

/-- A cell of the grid, on the drawn board or off it. -/
structure Cell where
  /-- The row, zero at the top. -/
  row : Int
  /-- The column, zero at the left. -/
  column : Int
  deriving DecidableEq

/-- The cell of a square in the view of the side at the bottom. -/
def Side.cell (orientation : Side) (square : Square) : Cell :=
  match orientation with
  | .white => { row := 8 - square.rank, column := square.file - 1 }
  | .black => { row := square.rank - 1, column := 8 - square.file }

/-- A point of the drawing. -/
structure Point where
  /-- The distance from the left edge. -/
  x : Binary64
  /-- The distance from the top edge. -/
  y : Binary64
  deriving DecidableEq

namespace Cell

/-- The cell at the lower left corner is dark, and colors alternate. -/
def isDark (cell : Cell) : Bool :=
  (cell.row + cell.column) % 2 == 1

/-- A number of square sides. -/
def distance (size : Binary64) (count : Int) : Except GeometryFault Binary64 :=
  match Binary64.ofInt? count with
  | some sides => .ok (sides * size)
  | none => .error .cellTooFar

/-- The upper left corner of a cell. -/
def corner (size : Binary64) (cell : Cell) : Except GeometryFault Point := do
  let x ← distance size cell.column
  let y ← distance size cell.row
  return { x, y }

/-- The center of a cell. -/
def center (size : Binary64) (cell : Cell) : Except GeometryFault Point := do
  let corner ← cell.corner size
  let half := size / Binary64.two
  return { x := corner.x + half, y := corner.y + half }

end Cell

/-- A board of some width seen from the side at the bottom. -/
structure Grid where
  /-- The width of the board. -/
  width : Width
  /-- The side at the bottom. -/
  orientation : Side
  deriving DecidableEq

/-- The cell of a square. -/
def Grid.cell (grid : Grid) (square : Square) : Cell :=
  grid.orientation.cell square

end ChessDrawing
