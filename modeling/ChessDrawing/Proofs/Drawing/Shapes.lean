import ChessDrawing.Drawing.Diagram
import ChessDrawing.Proofs.Drawing.Marks

/-!
# Shapes on the board

A square of the board is drawn in a cell of the grid whose row and column are at most seven, so that
its corner and its center are never at fault.  Each shape on the board is its class, which ends in
the names of its squares, followed by attributes that depend on the cells alone.  The layers of a
diagram are such shapes, one for each square, piece and mark.
-/

namespace ChessDrawing

open Square

/-! ## Cells -/

namespace Cell

/-- The cell is one of the 64 cells of the grid. -/
structure OnGrid (cell : Cell) : Prop where
  /-- The row is one of the eight rows. -/
  row : 0 ≤ cell.row ∧ cell.row ≤ 7
  /-- The column is one of the eight columns. -/
  column : 0 ≤ cell.column ∧ cell.column ≤ 7

/-- A number of square sides as a double. -/
def sides (count : Int) : Binary64 :=
  .finite false (Binary64.unitsPerOne * count.toNat)

/-- The upper left corner of a cell of the grid. -/
def cornerPoint (size : Binary64) (cell : Cell) : Point :=
  { x := sides cell.column * size, y := sides cell.row * size }

/-- The center of a cell of the grid. -/
def centerPoint (size : Binary64) (cell : Cell) : Point :=
  { x := (cell.cornerPoint size).x + size / Binary64.two,
    y := (cell.cornerPoint size).y + size / Binary64.two }

theorem distance_eq (size : Binary64) {count : Int} (nonneg : 0 ≤ count) (le_seven : count ≤ 7) :
    distance size count = .ok (sides count * size) := by
  obtain ⟨steps, rfl⟩ := Int.eq_ofNat_of_zero_le nonneg
  have each : ∀ steps < 8, Binary64.ofInt? (steps : Nat) = some (sides (steps : Nat)) := by
    decide +kernel
  rw [distance, each steps (by omega)]

theorem OnGrid.corner_eq {cell : Cell} (on_grid : cell.OnGrid) (size : Binary64) :
    cell.corner size = .ok (cell.cornerPoint size) := by
  rw [corner, distance_eq size on_grid.column.1 on_grid.column.2,
    distance_eq size on_grid.row.1 on_grid.row.2]
  rfl

theorem OnGrid.center_eq {cell : Cell} (on_grid : cell.OnGrid) (size : Binary64) :
    cell.center size = .ok (cell.centerPoint size) := by
  rw [center, on_grid.corner_eq]
  rfl

end Cell

theorem Side.cell_onGrid (side : Side) {square : Square} (on_board : square.OnBoard) :
    (side.cell square).OnGrid := by
  obtain ⟨file, rank⟩ := on_board
  cases side with
  | white => exact ⟨by simp only [cell]; omega, by simp only [cell]; omega⟩
  | black => exact ⟨by simp only [cell]; omega, by simp only [cell]; omega⟩

/-- Each cell shows one square. -/
theorem Side.eq_of_cell_eq {side : Side} {left right : Square}
    (same : side.cell left = side.cell right) : left = right := by
  obtain ⟨file, rank⟩ := left
  obtain ⟨file', rank'⟩ := right
  cases side with
  | white =>
      simp only [cell, Cell.mk.injEq] at same
      simp only [Square.mk.injEq]
      omega
  | black =>
      simp only [cell, Cell.mk.injEq] at same
      simp only [Square.mk.injEq]
      omega

/-! ## Shapes -/

namespace Shape

variable {grid : Grid} {square start finish : Square}

/-- The attributes that place a rectangle on a cell. -/
def frame (size : Binary64) (cell : Cell) : List (String × String) :=
  [ ("x", number (cell.cornerPoint size).x),
    ("y", number (cell.cornerPoint size).y),
    ("width", number size),
    ("height", number size) ]

/-- The attributes of a highlight of a cell, without its class. -/
def highlightAttributes (size : Binary64) (cell : Cell) : List (String × String) :=
  frame size cell ++ [("fill", markColor), ("fill-opacity", "0.5")]

/-- The attributes of a ring around the center of a cell, without its class. -/
def ringAttributes (size : Binary64) (cell : Cell) : List (String × String) :=
  [ ("cx", number (cell.centerPoint size).x),
    ("cy", number (cell.centerPoint size).y),
    ("r", number (ringRadius * size)),
    ("fill", "none"),
    ("stroke", markColor),
    ("stroke-width", number (ringStroke * size)),
    ("opacity", "0.8") ]

/-- The attributes of an arrow with the given corners, without its class. -/
def polygonAttributes (corners : List Point) : List (String × String) :=
  [("points", points corners), ("fill", markColor), ("opacity", "0.8")]

theorem square_of_onBoard (on_board : square.OnBoard) (size : Binary64) (side : Side)
    (light dark : String) :
    Shape.square size side light dark square =
      .ok (.node "rect"
        (("class", "square " ++ shade (side.cell square) ++ " " ++ square.boardName) ::
          (frame size (side.cell square) ++
            [("fill", if (side.cell square).isDark then dark else light)])) []) := by
  simp only [Shape.square, (side.cell_onGrid on_board).corner_eq, name_of_onBoard on_board]
  rfl

theorem squares_eq (grid : Grid) (light dark : String) :
    squares grid light dark =
      grid.width.squareSize.map fun size =>
        all.map fun square =>
          .node "rect"
            (("class", "square " ++ shade (grid.cell square) ++ " " ++ square.boardName) ::
              (frame size (grid.cell square) ++
                [("fill", if (grid.cell square).isDark then dark else light)])) [] := by
  rw [squares]
  cases grid.width.squareSize with
  | error fault => rfl
  | ok size =>
      rw [ok_bind, Except.map, mapM_eq_ok_iff, List.forall₂_map_right_iff, List.forall₂_same]
      intro square square_mem
      exact square_of_onBoard (mem_all_iff.mp square_mem) size grid.orientation light dark

/-- The class of a piece on a square. -/
def pieceClass (occupied : Square × Piece) : String :=
  "piece " ++ occupied.2.side.name ++ " " ++ occupied.2.kind.name ++ " " ++ occupied.1.boardName

theorem glyph_of_onBoard (on_board : square.OnBoard) (piece : Piece) :
    glyph grid square piece =
      grid.width.squareSize.map fun size =>
        .node "g"
          [ ("class", pieceClass (square, piece)),
            ("transform", placing ((grid.cell square).cornerPoint size) (size / artworkSize)) ]
          [piece.artwork] := by
  rw [glyph]
  cases grid.width.squareSize with
  | error fault => rfl
  | ok size =>
      simp only [ok_bind, Grid.cell, (grid.orientation.cell_onGrid on_board).corner_eq,
        name_of_onBoard on_board]
      rfl

theorem onBoard_of_occupied {placement : Placement} {occupied : Square × Piece}
    (mem : occupied ∈ placement.occupied) : occupied.1.OnBoard := by
  obtain ⟨square, square_mem, found⟩ := List.mem_filterMap.mp mem
  split at found
  · obtain rfl := Option.some.inj found
    exact mem_all_iff.mp square_mem
  · cases found

theorem pieces_of_size {size : Binary64} (sized : grid.width.squareSize = .ok size)
    (placement : Placement) :
    pieces grid placement =
      .ok (placement.occupied.map fun occupied =>
        .node "g"
          [ ("class", pieceClass occupied),
            ("transform",
              placing ((grid.cell occupied.1).cornerPoint size) (size / artworkSize)) ]
          [occupied.2.artwork]) := by
  rw [pieces, mapM_eq_ok_iff, List.forall₂_map_right_iff, List.forall₂_same]
  intro occupied mem
  rw [glyph_of_onBoard (onBoard_of_occupied mem), sized]
  rfl

theorem highlight_of_onBoard (on_board : square.OnBoard) :
    highlight grid square =
      grid.width.squareSize.map fun size =>
        .node "rect"
          (("class", "highlight " ++ square.boardName) ::
            highlightAttributes size (grid.cell square)) [] := by
  rw [highlight]
  cases grid.width.squareSize with
  | error fault => rfl
  | ok size =>
      simp only [ok_bind, Grid.cell, (grid.orientation.cell_onGrid on_board).corner_eq,
        name_of_onBoard on_board]
      rfl

theorem ring_of_onBoard (on_board : square.OnBoard) :
    ring grid square =
      grid.width.squareSize.map fun size =>
        .node "circle"
          (("class", "arrow " ++ square.boardName ++ " " ++ square.boardName) ::
            ringAttributes size (grid.cell square)) [] := by
  rw [ring]
  cases grid.width.squareSize with
  | error fault => rfl
  | ok size =>
      simp only [ok_bind, Grid.cell, (grid.orientation.cell_onGrid on_board).center_eq, arrowClass,
        name_of_onBoard on_board]
      rfl

theorem polygon_of_onBoard (start_on : start.OnBoard) (finish_on : finish.OnBoard) :
    polygon grid start finish =
      grid.width.squareSize >>= fun size =>
        (Arrow.outline size ((grid.cell start).centerPoint size)
          ((grid.cell finish).centerPoint size)).map fun corners =>
            .node "polygon"
              (("class", "arrow " ++ start.boardName ++ " " ++ finish.boardName) ::
                polygonAttributes corners) [] := by
  simp only [polygon, arrowClass, name_of_onBoard start_on, name_of_onBoard finish_on, ok_bind,
    Grid.arrowOutline]
  cases grid.width.squareSize with
  | error fault => rfl
  | ok size =>
      simp only [ok_bind, Grid.cell, (grid.orientation.cell_onGrid start_on).center_eq,
        (grid.orientation.cell_onGrid finish_on).center_eq]
      cases Arrow.outline size _ _ with
      | error fault => rfl
      | ok corners => rfl

/-- The tag and the attributes of an arrow between two cells, without its class. -/
def arrowShape (size : Binary64) (tail tip : Cell) :
    Except GeometryFault (String × List (String × String)) :=
  if tail = tip then
    .ok ("circle", ringAttributes size tail)
  else
    (Arrow.outline size (tail.centerPoint size) (tip.centerPoint size)).map fun corners =>
      ("polygon", polygonAttributes corners)

theorem arrow_of_onBoard (start_on : start.OnBoard) (finish_on : finish.OnBoard) :
    arrow grid start finish =
      grid.width.squareSize >>= fun size =>
        (arrowShape size (grid.cell start) (grid.cell finish)).map fun shape =>
          .node shape.1
            (("class", "arrow " ++ start.boardName ++ " " ++ finish.boardName) :: shape.2) [] := by
  have same_cell : grid.cell start = grid.cell finish ↔ start = finish :=
    ⟨Side.eq_of_cell_eq, congrArg grid.cell⟩
  rw [arrow]
  by_cases same : start = finish
  · subst same
    rw [if_pos rfl, ring_of_onBoard start_on]
    cases grid.width.squareSize with
    | error fault => rfl
    | ok size => rw [ok_bind, arrowShape, if_pos rfl]; rfl
  · rw [if_neg same, polygon_of_onBoard start_on finish_on]
    cases grid.width.squareSize with
    | error fault => rfl
    | ok size =>
        rw [ok_bind, ok_bind, arrowShape, if_neg (mt same_cell.mp same)]
        cases Arrow.outline size _ _ with
        | error fault => rfl
        | ok corners => rfl

end Shape

/-! ## Marks and layers -/

namespace Diagram

variable {grid : Grid}

theorem shape_highlight_eq_ok_iff {name : String} {element : Element} :
    shape grid (.highlight name) = .ok element ↔
      ∃ square size, square.OnBoard ∧ name = square.boardName ∧
        grid.width.squareSize = .ok size ∧
          element =
            .node "rect"
              (("class", "highlight " ++ square.boardName) ::
                Shape.highlightAttributes size (grid.cell square)) [] := by
  simp only [shape, bind_eq_ok_iff, mapError_eq_ok_iff, named_eq_ok_iff]
  constructor
  · rintro ⟨square, ⟨on_board, name_eq⟩, drawn⟩
    rw [Shape.highlight_of_onBoard on_board, map_eq_ok_iff] at drawn
    obtain ⟨size, sized, rfl⟩ := drawn
    exact ⟨square, size, on_board, name_eq, sized, rfl⟩
  · rintro ⟨square, size, on_board, name_eq, sized, rfl⟩
    exact ⟨square, ⟨on_board, name_eq⟩, by
      rw [Shape.highlight_of_onBoard on_board, sized]; rfl⟩

theorem shape_arrow_eq_ok_iff {startName finishName : String} {element : Element} :
    shape grid (.arrow startName finishName) = .ok element ↔
      ∃ start finish size tag attributes,
        (start.OnBoard ∧ startName = start.boardName) ∧
          (finish.OnBoard ∧ finishName = finish.boardName) ∧
            grid.width.squareSize = .ok size ∧
              Shape.arrowShape size (grid.cell start) (grid.cell finish) =
                .ok (tag, attributes) ∧
                element =
                  .node tag
                    (("class", "arrow " ++ start.boardName ++ " " ++ finish.boardName) ::
                      attributes) [] := by
  simp only [shape, bind_eq_ok_iff, mapError_eq_ok_iff, named_eq_ok_iff]
  constructor
  · rintro ⟨start, start_named, finish, finish_named, drawn⟩
    rw [Shape.arrow_of_onBoard start_named.1 finish_named.1, bind_eq_ok_iff] at drawn
    obtain ⟨size, sized, drawn⟩ := drawn
    obtain ⟨⟨tag, attributes⟩, shaped, rfl⟩ := map_eq_ok_iff.mp drawn
    exact ⟨start, finish, size, tag, attributes, start_named, finish_named, sized, shaped, rfl⟩
  · rintro ⟨start, finish, size, tag, attributes, start_named, finish_named, sized, shaped, rfl⟩
    refine ⟨start, start_named, finish, finish_named, ?_⟩
    rw [Shape.arrow_of_onBoard start_named.1 finish_named.1, sized, ok_bind, shaped]
    rfl

theorem drawn_cons_iff {mark : Mark} {marks : List Mark} {entries : List (Mark × Element)} :
    drawn grid (mark :: marks) = .ok entries ↔
      ∃ element later, shape grid mark = .ok element ∧ drawn grid marks = .ok later ∧
        entries = (mark, element) :: later := by
  simp only [drawn, List.mapM_cons, bind_eq_ok_iff, pure, Except.pure, Except.ok.injEq]
  constructor
  · rintro ⟨_, ⟨element, shaped, rfl⟩, later, drawn_later, rfl⟩
    exact ⟨element, later, shaped, drawn_later, rfl⟩
  · rintro ⟨element, later, shaped, drawn_later, rfl⟩
    exact ⟨_, ⟨element, shaped, rfl⟩, later, drawn_later, rfl⟩

/-- Marks are drawn exactly if each of them has a shape. -/
theorem exists_drawn_iff {marks : List Mark} :
    (∃ entries, drawn grid marks = .ok entries) ↔
      ∀ mark ∈ marks, ∃ element, shape grid mark = .ok element := by
  simp [drawn, exists_mapM_iff, bind_eq_ok_iff, pure, Except.pure]

/-- The shapes of one kind of marks are drawn from the marks of this kind. -/
theorem mapM_filter_of_drawn {marks : List Mark} {entries : List (Mark × Element)}
    (marks_drawn : drawn grid marks = .ok entries) (kind : Mark → Bool) :
    (marks.filter kind).mapM (shape grid) =
      .ok ((entries.filter fun entry => kind entry.1).map Prod.snd) := by
  rw [mapM_eq_ok_iff]
  induction marks generalizing entries with
  | nil =>
      obtain rfl := Except.ok.inj marks_drawn
      exact .nil
  | cons mark marks ih =>
      obtain ⟨element, later, shaped, drawn_later, rfl⟩ := drawn_cons_iff.mp marks_drawn
      cases of_kind : kind mark with
      | true =>
          simp only [List.filter_cons, of_kind, if_true, List.map_cons]
          exact .cons shaped (ih drawn_later)
      | false =>
          simp only [List.filter_cons, of_kind, Bool.false_eq_true, if_false]
          exact ih drawn_later

/-- Drawing some marks is drawing the highlights and the arrows among them. -/
theorem drawn_by_kind_iff {marks : List Mark} {highlights arrows : List Element} :
    (∃ entries, drawn grid marks = .ok entries ∧
        (entries.filter fun entry => isHighlight entry.1).map Prod.snd = highlights ∧
          (entries.filter fun entry => !isHighlight entry.1).map Prod.snd = arrows) ↔
      (marks.filter isHighlight).mapM (shape grid) = .ok highlights ∧
        (marks.filter fun mark => !isHighlight mark).mapM (shape grid) = .ok arrows := by
  constructor
  · rintro ⟨entries, marks_drawn, rfl, rfl⟩
    exact ⟨mapM_filter_of_drawn marks_drawn _, mapM_filter_of_drawn marks_drawn _⟩
  · rintro ⟨highlights_drawn, arrows_drawn⟩
    obtain ⟨entries, marks_drawn⟩ : ∃ entries, drawn grid marks = .ok entries := by
      rw [exists_drawn_iff]
      intro mark mark_mem
      cases kind : isHighlight mark with
      | true =>
          exact exists_mapM_iff.mp ⟨_, highlights_drawn⟩ mark (by simp [mark_mem, kind])
      | false => exact exists_mapM_iff.mp ⟨_, arrows_drawn⟩ mark (by simp [mark_mem, kind])
    rw [mapM_filter_of_drawn marks_drawn] at highlights_drawn arrows_drawn
    exact ⟨entries, marks_drawn, Except.ok.inj highlights_drawn, Except.ok.inj arrows_drawn⟩

theorem layers_eq_ok_iff {diagram : Diagram} {layers : Layers} :
    diagram.layers = .ok layers ↔
      Shape.squares diagram.grid diagram.style.light diagram.style.dark = .ok layers.squares ∧
        Shape.pieces diagram.grid diagram.placement = .ok layers.pieces ∧
          List.Forall₂ (fun mark element => shape diagram.grid mark = .ok element)
            (diagram.marks.filter isHighlight) layers.highlights ∧
          List.Forall₂ (fun mark element => shape diagram.grid mark = .ok element)
            (diagram.marks.filter fun mark => !isHighlight mark) layers.arrows := by
  obtain ⟨squares, pieces, highlights, arrows⟩ := layers
  simp only [← mapM_eq_ok_iff]
  rw [← drawn_by_kind_iff]
  simp only [Diagram.layers, bind_eq_ok_iff, mapError_eq_ok_iff, pure, Except.pure,
    Except.ok.injEq, Layers.mk.injEq]
  constructor
  · rintro ⟨_, squares_drawn, _, pieces_drawn, entries, marks_drawn, rfl, rfl, kinds⟩
    exact ⟨squares_drawn, pieces_drawn, entries, marks_drawn, kinds⟩
  · rintro ⟨squares_drawn, pieces_drawn, entries, marks_drawn, kinds⟩
    exact ⟨_, squares_drawn, _, pieces_drawn, entries, marks_drawn, rfl, rfl, kinds⟩

end Diagram
end ChessDrawing
