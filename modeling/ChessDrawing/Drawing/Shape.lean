import ChessDrawing.Board.Placement
import ChessDrawing.Drawing.Arrow
import ChessDrawing.Drawing.Artwork
import ChessDrawing.Number.Places

/-!
# Shapes

This file draws the parts of a diagram: the squares of the board, the pieces, highlights and arrows,
and the viewport around them.  Numbers in shapes are rounded to hundredths.  The class of a shape
ends in the names of its squares.
-/

namespace ChessDrawing
namespace Shape

/-- A number as it is written in a shape. -/
def number (value : Binary64) : String :=
  String.ofList value.coordinate

/-- The color of highlights and arrows. -/
def markColor : String := "#15781b"

/-- The side of the square that the artwork of a piece is drawn in. -/
def artworkSize : Binary64 := Binary64.ofDecimal 45 0

/-- The radius of the ring on one square, as a share of the side. -/
def ringRadius : Binary64 := Binary64.ofDecimal 45 2

/-- The width of the line of a ring, as a share of the side. -/
def ringStroke : Binary64 := Binary64.ofDecimal 8 2

/-! ## Squares -/

/-- The word for the color of a cell. -/
def shade (cell : Cell) : String :=
  if cell.isDark then "dark" else "light"

/-- The rectangle of one square of the board. -/
def square (size : Binary64) (orientation : Side) (light dark : String) (square : Square) :
    Except GeometryFault Element := do
  let cell := orientation.cell square
  let corner ← cell.corner size
  let name ← square.name
  return .node "rect"
    [ ("class", "square " ++ shade cell ++ " " ++ name),
      ("x", number corner.x),
      ("y", number corner.y),
      ("width", number size),
      ("height", number size),
      ("fill", if cell.isDark then dark else light) ] []

/-- The rectangles of the board in reading order. -/
def squares (grid : Grid) (light dark : String) : Except GeometryFault (List Element) := do
  let size ← grid.width.squareSize
  Square.all.mapM (square size grid.orientation light dark)

/-! ## Pieces -/

/-- The placing of artwork: moved to a corner and scaled to the side of a square. -/
def placing (corner : Point) (scale : Binary64) : String :=
  "translate(" ++ number corner.x ++ ", " ++ number corner.y ++ ") scale(" ++
    String.ofList scale.sixDigits ++ ")"

/-- The artwork of a piece, placed on a square. -/
def glyph (grid : Grid) (square : Square) (piece : Piece) : Except GeometryFault Element := do
  let size ← grid.width.squareSize
  let corner ← (grid.cell square).corner size
  let name ← square.name
  return .node "g"
    [ ("class", "piece " ++ piece.side.name ++ " " ++ piece.kind.name ++ " " ++ name),
      ("transform", placing corner (size / artworkSize)) ]
    [piece.artwork]

/-- The artwork of the pieces of a placement in reading order. -/
def pieces (grid : Grid) (placement : Placement) : Except GeometryFault (List Element) :=
  placement.occupied.mapM fun occupied => glyph grid occupied.1 occupied.2

/-! ## Marks -/

/-- The rectangle of a highlighted square. -/
def highlight (grid : Grid) (square : Square) : Except GeometryFault Element := do
  let size ← grid.width.squareSize
  let corner ← (grid.cell square).corner size
  let name ← square.name
  return .node "rect"
    [ ("class", "highlight " ++ name),
      ("x", number corner.x),
      ("y", number corner.y),
      ("width", number size),
      ("height", number size),
      ("fill", markColor),
      ("fill-opacity", "0.5") ] []

/-- The class of an arrow between two squares. -/
def arrowClass (start finish : Square) : Except GeometryFault String := do
  let startName ← start.name
  let finishName ← finish.name
  return "arrow " ++ startName ++ " " ++ finishName

/-- The ring that stands for an arrow on one square. -/
def ring (grid : Grid) (square : Square) : Except GeometryFault Element := do
  let size ← grid.width.squareSize
  let center ← (grid.cell square).center size
  let name ← arrowClass square square
  return .node "circle"
    [ ("class", name),
      ("cx", number center.x),
      ("cy", number center.y),
      ("r", number (ringRadius * size)),
      ("fill", "none"),
      ("stroke", markColor),
      ("stroke-width", number (ringStroke * size)),
      ("opacity", "0.8") ] []

/-- A point as it is written in a list of points. -/
def pointText (point : Point) : List Char :=
  point.x.coordinate ++ ',' :: point.y.coordinate

/-- Some points with spaces between them. -/
def points (corners : List Point) : String :=
  String.ofList ([' '].intercalate (corners.map pointText))

/-- The polygon of an arrow between different squares. -/
def polygon (grid : Grid) (start finish : Square) : Except GeometryFault Element := do
  let name ← arrowClass start finish
  let corners ← grid.arrowOutline start finish
  return .node "polygon"
    [ ("class", name),
      ("points", points corners),
      ("fill", markColor),
      ("opacity", "0.8") ] []

/-- The shape of an arrow: a ring if it starts and ends on one square. -/
def arrow (grid : Grid) (start finish : Square) : Except GeometryFault Element :=
  if start = finish then ring grid start else polygon grid start finish

/-! ## The viewport -/

/-- The square viewport of some width around a drawing. -/
def viewport (width : Int) (content : Element) : Element :=
  let side := String.ofList (Text.integer width)
  .node "svg"
    [ ("xmlns", "http://www.w3.org/2000/svg"),
      ("viewBox", "0 0 " ++ side ++ " " ++ side),
      ("width", side),
      ("height", side),
      ("style", "display: block") ]
    [content]

end Shape
end ChessDrawing
