import ChessDrawing.Proofs.Board.Canonical
import ChessDrawing.Proofs.Drawing.Shapes

/-!
# Half turns of the board

A half turn of the board moves each square across its center.  The side across the board sees the
turned square in the cell in which this side sees the square, so a diagram and the turned diagram
have the same shapes.  They differ in the names of squares, and the squares and pieces come in the
opposite order.
-/

namespace ChessDrawing

/-! ## Turned diagrams -/

/-- The side across the board. -/
def Side.across : Side → Side
  | .white => .black
  | .black => .white

@[simp]
theorem Side.across_across (side : Side) : side.across.across = side := by
  cases side <;> rfl

namespace Square

/-- The square to which a half turn of the board moves a square. -/
def turn (square : Square) : Square :=
  { file := 9 - square.file, rank := 9 - square.rank }

@[simp]
theorem turn_turn (square : Square) : square.turn.turn = square := by
  simp [turn]

@[simp]
theorem turn_onBoard_iff {square : Square} : square.turn.OnBoard ↔ square.OnBoard := by
  simp only [turn, OnBoard]
  omega

/-- A half turn puts the board in the opposite order. -/
theorem map_turn_all : all.map turn = all.reverse := by decide

/-- The name of the turned square; a text that names no square stays as it is. -/
def turnName (name : String) : String :=
  match ofName? name with
  | some square => square.turn.boardName
  | none => name

theorem turnName_boardName {square : Square} (on_board : square.OnBoard) :
    turnName square.boardName = square.turn.boardName := by
  rw [turnName, ofName?_eq_some_iff.mpr ⟨on_board, rfl⟩]

@[simp]
theorem turnName_turnName (name : String) : turnName (turnName name) = name := by
  cases read : ofName? name with
  | none =>
      have unchanged : turnName name = name := by rw [turnName, read]
      rw [unchanged, unchanged]
  | some square =>
      obtain ⟨on_board, rfl⟩ := ofName?_eq_some_iff.mp read
      rw [turnName_boardName on_board, turnName_boardName (turn_onBoard_iff.mpr on_board),
        turn_turn]

end Square

/-- The side across sees the turned square where this side sees the square. -/
@[simp]
theorem Side.cell_across_turn (side : Side) (square : Square) :
    side.across.cell square.turn = side.cell square := by
  cases side with
  | white =>
      simp only [across, cell, Square.turn, Cell.mk.injEq]
      omega
  | black =>
      simp only [across, cell, Square.turn, Cell.mk.injEq]
      omega

/-- A square is dark if its file and its rank have an even sum, on the board or off it. -/
theorem Side.isDark_cell_iff {side : Side} {square : Square} :
    (side.cell square).isDark = true ↔ Even (square.file + square.rank) := by
  cases side with
  | white =>
      simp only [cell, Cell.isDark, beq_iff_eq, Int.even_iff]
      omega
  | black =>
      simp only [cell, Cell.isDark, beq_iff_eq, Int.even_iff]
      omega

namespace Placement

/-- The placement after a half turn of the board. -/
def turn (placement : Placement) : Placement :=
  ofAssignment fun square => (placement.cell? square.turn).join

@[simp]
theorem cell?_turn (placement : Placement) (square : Square) :
    placement.turn.cell? square.turn = placement.cell? square := by
  by_cases on_board : square.OnBoard
  · obtain ⟨cell, found⟩ := placement.exists_cell_of_onBoard on_board
    rw [turn, cell?_ofAssignment _ (Square.turn_onBoard_iff.mpr on_board), Square.turn_turn, found,
      Option.join_some]
  · rw [cell?, cell?, if_neg on_board, if_neg (mt Square.turn_onBoard_iff.mp on_board)]

@[simp]
theorem turn_turn (placement : Placement) : placement.turn.turn = placement := by
  apply eq_of_cell?_eq
  intro square _
  calc
    placement.turn.turn.cell? square = placement.turn.turn.cell? square.turn.turn := by
      rw [Square.turn_turn]
    _ = placement.cell? square := by rw [cell?_turn, cell?_turn]

/-- The turned pieces stand on the turned squares, in the opposite order. -/
theorem occupied_turn (placement : Placement) :
    placement.turn.occupied =
      (placement.occupied.map fun occupied => (occupied.1.turn, occupied.2)).reverse := by
  have all_eq : Square.all = (Square.all.map Square.turn).reverse := by
    rw [Square.map_turn_all, List.reverse_reverse]
  rw [occupied, all_eq, List.filterMap_reverse, List.filterMap_map, occupied, List.map_filterMap]
  congr 2
  funext square
  rw [Function.comp_apply, cell?_turn]
  cases placement.cell? square with
  | none => rfl
  | some cell => cases cell <;> rfl

end Placement

/-- The mark on the turned squares. -/
def Mark.turn : Mark → Mark
  | .highlight square => .highlight (Square.turnName square)
  | .arrow start finish => .arrow (Square.turnName start) (Square.turnName finish)

@[simp]
theorem Mark.turn_turn (mark : Mark) : mark.turn.turn = mark := by
  cases mark <;> simp [turn]

@[simp]
theorem Mark.isHighlight_turn (mark : Mark) :
    Diagram.isHighlight mark.turn = Diagram.isHighlight mark := by
  cases mark <;> rfl

/-- The turned diagram, seen from the side across. -/
def Diagram.turn (diagram : Diagram) : Diagram where
  placement := diagram.placement.turn
  style := diagram.style
  orientation := diagram.orientation.across
  marks := diagram.marks.map Mark.turn

@[simp]
theorem Diagram.turn_turn (diagram : Diagram) : diagram.turn.turn = diagram := by
  simp [turn, Function.comp_def]

/-- The grid seen from the side across. -/
def Grid.turn (grid : Grid) : Grid where
  width := grid.width
  orientation := grid.orientation.across

@[simp]
theorem Diagram.grid_turn (diagram : Diagram) : diagram.turn.grid = diagram.grid.turn := rfl

@[simp]
theorem Diagram.marks_turn (diagram : Diagram) :
    diagram.turn.marks = diagram.marks.map Mark.turn := rfl

@[simp]
theorem Grid.cell_turn (grid : Grid) (square : Square) :
    grid.turn.cell square.turn = grid.cell square :=
  Side.cell_across_turn grid.orientation square

/-! ## Turned shapes -/

namespace Shape

/-- The rectangles of the squares of two drawings: a square has the shade and the other attributes
of the turned square. -/
def TurnedSquares (shown turned : List Element) : Prop :=
  ∃ (shade : Square → String) (attributes : Square → List (String × String)),
    shown =
        Square.all.map (fun square =>
          .node "rect"
            (("class", "square " ++ shade square ++ " " ++ square.boardName) ::
              attributes square) []) ∧
      turned.reverse =
        Square.all.map (fun square =>
          .node "rect"
            (("class", "square " ++ shade square ++ " " ++ square.turn.boardName) ::
              attributes square) [])

/-- The pieces of two drawings: a piece has the transform and the artwork of the piece on the turned
square. -/
def TurnedPieces (placement : Placement) (shown turned : List Element) : Prop :=
  ∃ transform : Square → String,
    shown =
        placement.occupied.map (fun occupied =>
          .node "g"
            [("class", pieceClass occupied), ("transform", transform occupied.1)]
            [occupied.2.artwork]) ∧
      turned.reverse =
        placement.occupied.map (fun occupied =>
          .node "g"
            [ ("class", pieceClass (occupied.1.turn, occupied.2)),
              ("transform", transform occupied.1) ]
            [occupied.2.artwork])

/-- Two highlights that differ in the name of the square only. -/
def TurnedHighlight (shown turned : Element) : Prop :=
  ∃ (square : Square) (attributes : List (String × String)),
    shown = .node "rect" (("class", "highlight " ++ square.boardName) :: attributes) [] ∧
      turned = .node "rect" (("class", "highlight " ++ square.turn.boardName) :: attributes) []

/-- Two arrows or rings that differ in the names of their squares only. -/
def TurnedArrow (shown turned : Element) : Prop :=
  ∃ (tag : String) (start finish : Square) (attributes : List (String × String)),
    shown =
        .node tag
          (("class", "arrow " ++ start.boardName ++ " " ++ finish.boardName) :: attributes) [] ∧
      turned =
        .node tag
          (("class", "arrow " ++ start.turn.boardName ++ " " ++ finish.turn.boardName) ::
            attributes) []

variable {grid : Grid} {light dark : String}

/-- Squares look like the turned squares seen from the side across. -/
theorem squares_turn {shown : List Element} (drawn : squares grid light dark = .ok shown) :
    ∃ turned, squares grid.turn light dark = .ok turned ∧ TurnedSquares shown turned := by
  rw [squares_eq, map_eq_ok_iff] at drawn
  obtain ⟨size, sized, rfl⟩ := drawn
  refine ⟨_, by rw [squares_eq, Grid.turn, sized]; rfl,
    fun square => shade (grid.cell square),
    fun square =>
      frame size (grid.cell square) ++
        [("fill", if (grid.cell square).isDark then dark else light)],
    rfl, ?_⟩
  rw [← List.map_reverse, ← Square.map_turn_all, List.map_map]
  congr 1
  funext square
  rw [Function.comp_apply, ← Grid.turn, Grid.cell_turn]

/-- Pieces look like the pieces on the turned squares. -/
theorem pieces_turn {placement : Placement} {shown : List Element} {size : Binary64}
    (sized : grid.width.squareSize = .ok size) (drawn : pieces grid placement = .ok shown) :
    ∃ turned, pieces grid.turn placement.turn = .ok turned ∧
      TurnedPieces placement shown turned := by
  rw [pieces_of_size sized] at drawn
  obtain rfl := Except.ok.inj drawn
  refine ⟨_, pieces_of_size (show grid.turn.width.squareSize = .ok size from sized) placement.turn,
    fun square => placing ((grid.cell square).cornerPoint size) (size / artworkSize), rfl, ?_⟩
  rw [Placement.occupied_turn, ← List.map_reverse, List.reverse_reverse, List.map_map]
  apply List.map_congr_left
  intro occupied _
  rw [Function.comp_apply, Grid.cell_turn]

end Shape

/-- The layers of two drawings of a placement and the turned placement have the same shapes. -/
structure Layers.Turned (placement : Placement) (shown turned : Layers) : Prop where
  /-- Squares look like the turned squares. -/
  squares : Shape.TurnedSquares shown.squares turned.squares
  /-- Pieces look like the pieces on the turned squares. -/
  pieces : Shape.TurnedPieces placement shown.pieces turned.pieces
  /-- Highlights look like the highlights of the turned squares, one by one. -/
  highlights : List.Forall₂ Shape.TurnedHighlight shown.highlights turned.highlights
  /-- Arrows look like the arrows between the turned squares, one by one. -/
  arrows : List.Forall₂ Shape.TurnedArrow shown.arrows turned.arrows

namespace Diagram

open Square

variable {grid : Grid}

theorem shape_highlight_turn {name : String} {shown : Element}
    (drawn : shape grid (.highlight name) = .ok shown) :
    ∃ turned, shape grid.turn (Mark.highlight name).turn = .ok turned ∧
      Shape.TurnedHighlight shown turned := by
  obtain ⟨square, size, on_board, rfl, sized, rfl⟩ := shape_highlight_eq_ok_iff.mp drawn
  refine ⟨_, ?_, square, _, rfl, rfl⟩
  rw [Mark.turn, turnName_boardName on_board]
  exact shape_highlight_eq_ok_iff.mpr
    ⟨square.turn, size, turn_onBoard_iff.mpr on_board, rfl, sized, by rw [Grid.cell_turn]⟩

theorem shape_arrow_turn {startName finishName : String} {shown : Element}
    (drawn : shape grid (.arrow startName finishName) = .ok shown) :
    ∃ turned, shape grid.turn (Mark.arrow startName finishName).turn = .ok turned ∧
      Shape.TurnedArrow shown turned := by
  obtain ⟨start, finish, size, tag, attributes, ⟨start_on, rfl⟩, ⟨finish_on, rfl⟩, sized, shaped,
    rfl⟩ := shape_arrow_eq_ok_iff.mp drawn
  refine ⟨_, ?_, tag, start, finish, attributes, rfl, rfl⟩
  rw [Mark.turn, turnName_boardName start_on, turnName_boardName finish_on]
  exact shape_arrow_eq_ok_iff.mpr
    ⟨start.turn, finish.turn, size, tag, attributes, ⟨turn_onBoard_iff.mpr start_on, rfl⟩,
      ⟨turn_onBoard_iff.mpr finish_on, rfl⟩, sized, by simpa using shaped, rfl⟩

/-- Marks that are drawn have turned counterparts, one by one. -/
theorem exists_turned_shapes {related : Element → Element → Prop} {marks : List Mark}
    {shown : List Element}
    (one : ∀ mark ∈ marks, ∀ element, shape grid mark = .ok element →
      ∃ turned, shape grid.turn mark.turn = .ok turned ∧ related element turned)
    (drawn : List.Forall₂ (fun mark element => shape grid mark = .ok element) marks shown) :
    ∃ turned,
      List.Forall₂ (fun mark element => shape grid.turn mark = .ok element)
          (marks.map Mark.turn) turned ∧
        List.Forall₂ related shown turned := by
  induction drawn with
  | nil => exact ⟨[], .nil, .nil⟩
  | @cons mark element marks shown shaped _ ih =>
      rw [List.forall_mem_cons] at one
      obtain ⟨first, first_shaped, first_related⟩ := one.1 element shaped
      obtain ⟨later, later_shaped, later_related⟩ := ih one.2
      exact ⟨first :: later, .cons first_shaped later_shaped, .cons first_related later_related⟩

/-- The layers of a diagram are those of the turned diagram up to the names of squares. -/
theorem layers_turn {diagram : Diagram} {shown : Layers} (drawn : diagram.layers = .ok shown) :
    ∃ turned, diagram.turn.layers = .ok turned ∧
      Layers.Turned diagram.placement shown turned := by
  obtain ⟨squares_drawn, pieces_drawn, highlights_drawn, arrows_drawn⟩ :=
    layers_eq_ok_iff.mp drawn
  have sized : ∃ size, diagram.grid.width.squareSize = .ok size := by
    rw [Shape.squares_eq, map_eq_ok_iff] at squares_drawn
    exact squares_drawn.imp fun _ found => found.1
  obtain ⟨size, sized⟩ := sized
  obtain ⟨squares, squares_turned, squares_related⟩ := Shape.squares_turn squares_drawn
  obtain ⟨pieces, pieces_turned, pieces_related⟩ := Shape.pieces_turn sized pieces_drawn
  obtain ⟨highlights, highlights_turned, highlights_related⟩ :=
    exists_turned_shapes (by
      intro mark mark_mem element shaped
      cases mark with
      | highlight name => exact shape_highlight_turn shaped
      | arrow start finish => simp [isHighlight] at mark_mem) highlights_drawn
  obtain ⟨arrows, arrows_turned, arrows_related⟩ :=
    exists_turned_shapes (by
      intro mark mark_mem element shaped
      cases mark with
      | highlight name => simp [isHighlight] at mark_mem
      | arrow start finish => exact shape_arrow_turn shaped) arrows_drawn
  refine ⟨{ squares, pieces, highlights, arrows }, ?_,
    { squares := squares_related
      pieces := pieces_related
      highlights := highlights_related
      arrows := arrows_related }⟩
  rw [layers_eq_ok_iff]
  refine ⟨squares_turned, pieces_turned, ?_, ?_⟩
  · simpa [List.filter_map, Function.comp_def] using highlights_turned
  · simpa [List.filter_map, Function.comp_def] using arrows_turned

/-- Drawings of one style from one side have the same squares. -/
theorem squares_of_layers {left right : Diagram} {shown seen : Layers}
    (same_style : left.style = right.style) (same_side : left.orientation = right.orientation)
    (shown_drawn : left.layers = .ok shown) (seen_drawn : right.layers = .ok seen) :
    shown.squares = seen.squares := by
  have shown_squares := (layers_eq_ok_iff.mp shown_drawn).1
  rw [grid, same_style, same_side] at shown_squares
  exact Except.ok.inj (shown_squares.symm.trans (layers_eq_ok_iff.mp seen_drawn).1)

/-- Black's view is White's view of the turned board: one drawing succeeds exactly if the other
does, and then squares look like the turned squares, pieces like the pieces on the turned squares,
and marks like the marks on the turned squares.  The squares of White's view do not depend on what
stands on them.  A square, on the board or off it, is dark exactly if its file and rank have an even
sum, whichever side sees it. -/
theorem black_view_of_turned_white_view (placement : Placement) (style : Style)
    (marks : List Mark) :
    let black : Diagram := { placement, style, orientation := .black, marks }
    let white : Diagram :=
      { placement := placement.turn
        style
        orientation := .white
        marks := marks.map Mark.turn }
    ((∃ shown, black.layers = .ok shown) ↔ ∃ turned, white.layers = .ok turned) ∧
      (∀ shown, black.layers = .ok shown →
        (∀ turned, white.layers = .ok turned → Layers.Turned placement shown turned) ∧
          ∀ plain : Diagram, plain.style = style → plain.orientation = .white →
            ∀ seen, plain.layers = .ok seen → Shape.TurnedSquares shown.squares seen.squares) ∧
      ∀ square : Square,
        (Side.black.cell square).isDark = (Side.white.cell square).isDark ∧
          ((Side.white.cell square).isDark = true ↔ Even (square.file + square.rank)) := by
  intro black white
  have white_turn : white.turn = black := by
    simp [white, black, turn, Side.across, Function.comp_def]
  refine ⟨⟨?_, ?_⟩, ?_, ?_⟩
  · rintro ⟨shown, drawn⟩
    obtain ⟨turned, drawn_turned, -⟩ := layers_turn drawn
    exact ⟨turned, drawn_turned⟩
  · rintro ⟨turned, drawn⟩
    obtain ⟨shown, drawn_shown, -⟩ := layers_turn drawn
    rw [white_turn] at drawn_shown
    exact ⟨shown, drawn_shown⟩
  · intro shown drawn
    obtain ⟨turned, drawn_turned, related⟩ := layers_turn drawn
    refine ⟨?_, ?_⟩
    · intro other other_drawn
      obtain rfl := Except.ok.inj (drawn_turned.symm.trans other_drawn)
      exact related
    · intro plain same_style white_side seen seen_drawn
      have same_squares : seen.squares = turned.squares :=
        squares_of_layers same_style white_side seen_drawn drawn_turned
      rw [same_squares]
      exact related.squares
  · intro square
    rw [Bool.eq_iff_iff, Side.isDark_cell_iff, Side.isDark_cell_iff]
    exact ⟨Iff.rfl, Iff.rfl⟩

/-- A pawn on a2 with a highlight, an arrow and a ring looks to Black as the pawn on h7 looks to
White. -/
theorem black_view_of_pawn :
    let placement := Placement.ofAssignment fun square =>
      if square = { file := 1, rank := 2 } then some { side := .white, kind := .pawn } else none
    let marks : List Mark := [.highlight "a2", .arrow "a2" "b4", .arrow "h1" "h1"]
    ∃ shown turned,
      Diagram.layers { placement, style := Style.default, orientation := .black, marks } =
          .ok shown ∧
        Diagram.layers
            { placement := placement.turn
              style := Style.default
              orientation := .white
              marks := marks.map Mark.turn } = .ok turned ∧
          Layers.Turned placement shown turned := by
  intro placement marks
  have black_drawn :
      (Diagram.layers { placement, style := Style.default, orientation := .black, marks }).isOk =
        true := by
    decide +kernel
  obtain ⟨shown, drawn⟩ := isOk_iff_exists.mp black_drawn
  obtain ⟨both_drawn, same_shapes, -⟩ :=
    black_view_of_turned_white_view placement Style.default marks
  obtain ⟨turned, drawn_turned⟩ := both_drawn.mp ⟨shown, drawn⟩
  exact ⟨shown, turned, drawn, drawn_turned, (same_shapes shown drawn).1 turned drawn_turned⟩

end Diagram
end ChessDrawing
