import ChessDrawing.Drawing.Grid
import ChessDrawing.Number.Length

/-!
# Arrows

An arrow runs from a tail to a tip.  Its shaft ends at the neck, one head height before the tip, and
its head is the triangle from the neck to the tip.  Measures are shares of the side of a square, and
a short arrow has a smaller head.
-/

namespace ChessDrawing
namespace Arrow

/-- The width of the shaft. -/
def shaftWidth : Binary64 := Binary64.ofDecimal 18 2

/-- The width of the head. -/
def headWidth : Binary64 := Binary64.ofDecimal 45 2

/-- The height of the head. -/
def headHeight : Binary64 := Binary64.ofDecimal 35 2

/-- The length below which an arrow is short. -/
def shortLength : Binary64 := Binary64.ofDecimal 12 1

/-- The width of the head of a short arrow. -/
def shortHeadWidth : Binary64 := Binary64.ofDecimal 4 1

/-- The height of the head of a short arrow. -/
def shortHeadHeight : Binary64 := Binary64.ofDecimal 3 1

/-- The point at a multiple of a direction from a point, against the direction. -/
def before (point direction : Point) (measure : Binary64) : Point :=
  { x := point.x - direction.x * measure, y := point.y - direction.y * measure }

/-- The point at a multiple of a direction from a point, along the direction. -/
def beyond (point direction : Point) (measure : Binary64) : Point :=
  { x := point.x + direction.x * measure, y := point.y + direction.y * measure }

/-- The seven corners of an arrow: tail, neck and head on the right side, tip, then head, neck and
tail on the left side.  An arrow without length has none. -/
def outline (size : Binary64) (tail tip : Point) : Except GeometryFault (List Point) :=
  let dx := tip.x - tail.x
  let dy := tip.y - tail.y
  let length := Binary64.hypotenuse dx dy
  if length.isZero then
    .error .noLength
  else
    let short := length.less (shortLength * size)
    let width := (if short then shortHeadWidth else headWidth) * size
    let height := (if short then shortHeadHeight else headHeight) * size
    let along : Point := { x := dx / length, y := dy / length }
    let across : Point := { x := -along.y, y := along.x }
    let neck := before tip along height
    let shaft := shaftWidth * size / Binary64.two
    let head := width / Binary64.two
    .ok
      [ before tail across shaft,
        before neck across shaft,
        before neck across head,
        tip,
        beyond neck across head,
        beyond neck across shaft,
        beyond tail across shaft ]

end Arrow

/-- The corners of the arrow between the centers of two squares. -/
def Grid.arrowOutline (grid : Grid) (start finish : Square) :
    Except GeometryFault (List Point) := do
  let size ← grid.width.squareSize
  let tail ← (grid.cell start).center size
  let tip ← (grid.cell finish).center size
  Arrow.outline size tail tip

end ChessDrawing
