import ChessDrawing.Action
import ChessDrawing.Drawing.Shape
import ChessDrawing.Script.Basic
import ChessDrawing.Settings.Style

/-!
# Diagrams

A diagram is a placement with marks, seen from one side in some style.  Builders check the
names of squares and append; drawing makes a tree of four layers, bottom to top: squares, pieces,
highlights and arrows.  Rendering reads a script, builds its diagram and writes the markup.
-/

namespace ChessDrawing

/-- A placement with the marks on it. -/
structure Diagram where
  /-- What stands on the board. -/
  placement : Placement
  /-- How the diagram looks. -/
  style : Style
  /-- The side at the bottom. -/
  orientation : Side
  /-- The marks in the order in which they were put. -/
  marks : List Mark
  deriving DecidableEq

/-- The shapes of a diagram, layer by layer. -/
structure Layers where
  /-- The squares of the board. -/
  squares : List Element
  /-- The pieces. -/
  pieces : List Element
  /-- The highlighted squares. -/
  highlights : List Element
  /-- The arrows. -/
  arrows : List Element

namespace Layers

/-- The layers as groups of one tree, bottom to top. -/
def tree (layers : Layers) : Element :=
  .group "chessboard"
    [ .group "squares" layers.squares,
      .group "pieces" layers.pieces,
      .group "highlights" layers.highlights,
      .group "arrows" layers.arrows ]

end Layers

namespace Diagram

/-- The first field of a position: what stands before the first space of the trimmed text. -/
def placementField (position : String) : String :=
  String.ofList ((Text.trim position.toList).takeWhile (· != ' '))

/-- A diagram without marks. -/
def ofPosition (position : String) (style : Style) (orientation : Side) :
    Except SourceFault Diagram := do
  let placement ← Placement.ofText (placementField position)
  return { placement, style, orientation, marks := [] }

/-- The grid on which a diagram is drawn. -/
def grid (diagram : Diagram) : Grid :=
  { width := .pixels diagram.style.width, orientation := diagram.orientation }

/-- The cell in which a named square is drawn. -/
def cell (diagram : Diagram) (name : String) : Except SourceFault Cell := do
  let square ← Square.named name
  return diagram.grid.cell square

/-! ## Builders -/

/-- Check the names of a mark in their order. -/
def check : Mark → Except SourceFault Unit
  | .highlight square => do
      let _ ← Square.named square
  | .arrow start finish => do
      let _ ← Square.named start
      let _ ← Square.named finish

/-- Check the names of a mark, then append it. -/
def addMark (mark : Mark) : Action Diagram SourceFault Unit := do
  check mark
  modify fun diagram => { diagram with marks := diagram.marks ++ [mark] }

/-- Append a highlight. -/
def addHighlight (square : String) : Action Diagram SourceFault Unit :=
  addMark (.highlight square)

/-- Append an arrow. -/
def addArrow (start finish : String) : Action Diagram SourceFault Unit :=
  addMark (.arrow start finish)

/-! ## Drawing -/

/-- The shape of a mark. -/
def shape (grid : Grid) : Mark → Except RenderFault Element
  | .highlight name => do
      let square ← (Square.named name).mapError .source
      (Shape.highlight grid square).mapError .geometry
  | .arrow startName finishName => do
      let start ← (Square.named startName).mapError .source
      let finish ← (Square.named finishName).mapError .source
      (Shape.arrow grid start finish).mapError .geometry

/-- Whether a mark is a highlight. -/
def isHighlight : Mark → Bool
  | .highlight _ => true
  | .arrow _ _ => false

/-- The marks with their shapes, in order. -/
def drawn (grid : Grid) (marks : List Mark) : Except RenderFault (List (Mark × Element)) :=
  marks.mapM fun mark => do
    let element ← shape grid mark
    return (mark, element)

/-- The shapes of a diagram. -/
def layers (diagram : Diagram) : Except RenderFault Layers := do
  let grid := diagram.grid
  let squares ← (Shape.squares grid diagram.style.light diagram.style.dark).mapError .geometry
  let pieces ← (Shape.pieces grid diagram.placement).mapError .geometry
  let drawn ← drawn grid diagram.marks
  let highlights := drawn.filter fun entry => isHighlight entry.1
  let arrows := drawn.filter fun entry => !isHighlight entry.1
  return { squares, pieces, highlights := highlights.map Prod.snd, arrows := arrows.map Prod.snd }

/-- The drawing of a diagram. -/
def draw (diagram : Diagram) : Except RenderFault Element := do
  let layers ← diagram.layers
  return layers.tree

/-- The markup of a diagram in a viewport of its width. -/
def svg (diagram : Diagram) : Except RenderFault String := do
  let drawing ← diagram.draw
  return (Shape.viewport diagram.style.width drawing).render

/-! ## Rendering a source -/

/-- The diagram of a source. -/
def ofSource (style : Style) (source : String) : Except SourceFault Diagram := do
  let script ← Script.ofSource source
  let diagram ← ofPosition script.position style script.orientation
  (forM script.marks addMark).after diagram

/-- The markup of a source. -/
def render (style : Style) (source : String) : Except RenderFault String := do
  let diagram ← (ofSource style source).mapError .source
  diagram.svg

/-! ## Runs -/

/-- A step of work with a diagram. -/
inductive Step where
  | highlight (square : String)
  | arrow (start finish : String)
  | mark (mark : Mark)
  | cell (square : String)
  | draw
  | svg

/-- The result of a step. -/
inductive Answer where
  | done
  | cell (cell : Cell)
  | layers (layers : Layers)
  | svg (markup : String)

/-- A builder as a step, which has no other answer than that it is done. -/
def built (builder : Action Diagram SourceFault Unit) : Action Diagram RenderFault Answer := do
  builder.adapt RenderFault.source
  return .done

/-- What a step does. -/
def act : Step → Action Diagram RenderFault Answer
  | .highlight square => built (addHighlight square)
  | .arrow start finish => built (addArrow start finish)
  | .mark mark => built (addMark mark)
  | .cell square => do
      let diagram ← get
      let cell ← (diagram.cell square).mapError RenderFault.source
      return .cell cell
  | .draw => do
      let diagram ← get
      let layers ← diagram.layers
      return .layers layers
  | .svg => do
      let diagram ← get
      let markup ← diagram.svg
      return .svg markup

/-- The result of a step and the diagram after it. -/
def step (diagram : Diagram) (step : Step) : Except RenderFault Answer × Diagram :=
  (act step).on diagram

end Diagram
end ChessDrawing
