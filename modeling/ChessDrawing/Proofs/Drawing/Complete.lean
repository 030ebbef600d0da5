import ChessDrawing.Proofs.Board.Canonical
import ChessDrawing.Proofs.Drawing.Shapes
import ChessDrawing.Proofs.Number.PlainDecimal
import ChessDrawing.Proofs.Text.Lines

/-!
# Complete drawings

A drawing is complete or there is none.  One loop over the marks fills two layers, the highlights
and the arrows, and it stops at the first name of no square, so that no layer is ever short.  In a
complete drawing each layer follows its list item by item, and the squares, the pieces and the
highlights agree on the texts of their corners.
-/

namespace ChessDrawing

open Square

/-! ## Numbers in shapes -/

/-- Some characters, none of which is a space or a comma. -/
def Text.IsUnbroken (text : List Char) : Prop :=
  text ≠ [] ∧ ' ' ∉ text ∧ ',' ∉ text

namespace Binary64

variable {character : Char}

/-- A number in a shape is made of digits, a point, a sign, and the letters of the words for an
infinity and for a missing number. -/
theorem not_mem_coordinate (no_digit : character.isDigit = false)
    (no_other : character ∉ ['.', '-', 'i', 'n', 'f', 'a']) (value : Binary64) :
    character ∉ value.coordinate := by
  simp only [List.mem_cons, List.not_mem_nil, or_false, not_or] at no_other
  obtain ⟨no_point, no_sign, no_i, no_n, no_f, no_a⟩ := no_other
  rw [coordinate]
  cases value.toHundredth + finite false 0 with
  | finite negative units =>
      rw [twoPlaces, withoutFinal_fixedPlaces]
      exact Text.PlainDecimal.not_mem_text no_digit no_point no_sign _
  | infinite negative =>
      have absent : character ∉ (infinite negative).twoPlaces := by
        cases negative <;> simp [twoPlaces, infinityText, withSign, no_sign, no_i, no_n, no_f]
      exact fun mem =>
        absent (Text.mem_of_mem_withoutFinal (Text.mem_of_mem_withoutFinal mem))
  | nan =>
      have absent : character ∉ nan.twoPlaces := by
        simp [twoPlaces, nanText, no_n, no_a]
      exact fun mem =>
        absent (Text.mem_of_mem_withoutFinal (Text.mem_of_mem_withoutFinal mem))

theorem coordinate_ne_nil (value : Binary64) : value.coordinate ≠ [] := by
  rw [coordinate]
  cases value.toHundredth + finite false 0 with
  | finite negative units =>
      rw [twoPlaces, withoutFinal_fixedPlaces]
      exact Text.PlainDecimal.text_ne_nil _
  | infinite negative => cases negative <;> decide
  | nan => decide

theorem coordinate_isUnbroken (value : Binary64) : Text.IsUnbroken value.coordinate :=
  ⟨value.coordinate_ne_nil, not_mem_coordinate (by decide) (by decide) value,
    not_mem_coordinate (by decide) (by decide) value⟩

end Binary64

/-! ## Shapes -/

namespace Shape

/-- A rectangle of some class whose corner has the given texts. -/
def IsRectangle (name : String) (corner : String × String) (element : Element) : Prop :=
  ∃ attributes, element = .node "rect" attributes [] ∧
    attributes.lookup "class" = some name ∧
      attributes.lookup "x" = some corner.1 ∧ attributes.lookup "y" = some corner.2

/-- The artwork of a piece, moved to the corner with the given texts. -/
def IsGlyph (occupied : Square × Piece) (corner : String × String) (element : Element) : Prop :=
  ∃ attributes scale, element = .node "g" attributes [occupied.2.artwork] ∧
    attributes.lookup "class" = some (pieceClass occupied) ∧
      attributes.lookup "transform" =
        some ("translate(" ++ corner.1 ++ ", " ++ corner.2 ++ ") scale(" ++ scale ++ ")")

/-- A text of some points with spaces between them, each of them two coordinates with a comma
between them. -/
def IsPoints (count : Nat) (text : String) : Prop :=
  (Text.split ' ' text.toList).length = count ∧
    ∀ point ∈ Text.split ' ' text.toList, ∃ x y,
      Text.IsUnbroken x ∧ Text.IsUnbroken y ∧ point = x ++ ',' :: y

/-- The shape of an arrow between two names: a circle if they are the same, else a polygon of seven
points. -/
def IsArrow (ends : String × String) (element : Element) : Prop :=
  ∃ tag attributes, element = .node tag attributes [] ∧
    attributes.lookup "class" = some ("arrow " ++ ends.1 ++ " " ++ ends.2) ∧
      (ends.1 = ends.2 → tag = "circle") ∧
        (ends.1 ≠ ends.2 → tag = "polygon" ∧
          ∃ points, attributes.lookup "points" = some points ∧ IsPoints 7 points)

theorem points_isPoints {corners : List Point} (nonempty : corners ≠ []) :
    IsPoints corners.length (points corners) := by
  have free : ∀ text ∈ corners.map pointText, ' ' ∉ text := by
    rw [List.forall_mem_map]
    intro corner corner_mem
    simp [pointText, corner.x.coordinate_isUnbroken.2.1, corner.y.coordinate_isUnbroken.2.1]
  have split_eq : Text.split ' ' (points corners).toList = corners.map pointText := by
    rw [points, String.toList_ofList, Text.split_eq_splitOn]
    exact List.splitOn_intercalate ' ' free (by simpa using nonempty)
  rw [IsPoints, split_eq]
  refine ⟨List.length_map _, ?_⟩
  rw [List.forall_mem_map]
  intro corner corner_mem
  exact ⟨_, _, corner.x.coordinate_isUnbroken, corner.y.coordinate_isUnbroken, rfl⟩

/-- The texts of the upper left corner of a cell of the grid. -/
def cornerTexts (size : Binary64) (cell : Cell) : String × String :=
  (number (cell.cornerPoint size).x, number (cell.cornerPoint size).y)

theorem length_outline {size : Binary64} {tail tip : Point} {corners : List Point}
    (outlined : Arrow.outline size tail tip = .ok corners) : corners.length = 7 := by
  simp only [Arrow.outline] at outlined
  split at outlined
  · cases outlined
  · obtain rfl := Except.ok.inj outlined
    rfl

theorem eq_noLength_of_outline {size : Binary64} {tail tip : Point} {fault : GeometryFault}
    (refused : Arrow.outline size tail tip = .error fault) : fault = .noLength := by
  simp only [Arrow.outline] at refused
  split at refused
  · exact (Except.error.inj refused).symm
  · cases refused

end Shape

theorem Width.eq_widthTooLarge_of_squareSize {width : Width} {fault : GeometryFault}
    (refused : width.squareSize = .error fault) : fault = .widthTooLarge := by
  cases width with
  | pixels count =>
      rw [squareSize] at refused
      split at refused
      · cases refused
      · exact (Except.error.inj refused).symm
  | length value => cases refused

/-! ## Layers -/

/-- What the layers of a diagram show, where the rectangle of each square has the given texts for
its corner. -/
structure Layers.Shows (diagram : Diagram) (corner : Square → String × String) (layers : Layers) :
    Prop where
  /-- The texts of a corner have no space and no comma, so that both can be read off where a piece
  is moved to. -/
  corners : ∀ square,
    Text.IsUnbroken (corner square).1.toList ∧ Text.IsUnbroken (corner square).2.toList
  /-- A rectangle for each square of the board in reading order. -/
  squares :
    List.Forall₂
      (fun square =>
        Shape.IsRectangle
          ("square " ++ Shape.shade (diagram.grid.cell square) ++ " " ++ square.boardName)
          (corner square))
      Square.all layers.squares
  /-- The artwork of each piece in reading order, at the corner of its square. -/
  pieces :
    List.Forall₂
      (fun occupied element =>
        occupied.1 ∈ Square.all ∧ Shape.IsGlyph occupied (corner occupied.1) element)
      diagram.placement.occupied layers.pieces
  /-- A rectangle for each highlight in the order of the marks, at the corner of its square. -/
  highlights :
    List.Forall₂
      (fun name element =>
        ∃ square ∈ Square.all, name = square.boardName ∧
          Shape.IsRectangle ("highlight " ++ name) (corner square) element)
      (diagram.marks.filterMap Mark.highlight?) layers.highlights
  /-- A shape for each arrow in the order of the marks. -/
  arrows : List.Forall₂ Shape.IsArrow (diagram.marks.filterMap Mark.arrow?) layers.arrows

namespace Diagram

variable {diagram : Diagram} {grid : Grid} {mark : Mark} {marks : List Mark} {layers : Layers}

theorem isArrow_of_shape {startName finishName : String} {element : Element}
    (shaped : shape grid (.arrow startName finishName) = .ok element) :
    Shape.IsArrow (startName, finishName) element := by
  obtain ⟨start, finish, size, tag, attributes, ⟨start_on, rfl⟩, ⟨finish_on, rfl⟩, -, arrow_eq,
    rfl⟩ := shape_arrow_eq_ok_iff.mp shaped
  have same_cell : grid.cell start = grid.cell finish ↔ start.boardName = finish.boardName :=
    ⟨fun same => congrArg boardName (Side.eq_of_cell_eq same),
      fun same => congrArg grid.cell (eq_of_boardName_eq start_on finish_on same)⟩
  refine ⟨tag, _, rfl, rfl, ?_, ?_⟩
  · intro same
    rw [Shape.arrowShape, if_pos (same_cell.mpr same)] at arrow_eq
    obtain ⟨rfl, -⟩ := Prod.mk.inj (Except.ok.inj arrow_eq)
    rfl
  · intro different
    rw [Shape.arrowShape, if_neg (mt same_cell.mp different), map_eq_ok_iff] at arrow_eq
    obtain ⟨corners, outlined, shape_eq⟩ := arrow_eq
    obtain ⟨rfl, rfl⟩ := Prod.mk.inj shape_eq
    have seven := Shape.length_outline outlined
    have pointed := Shape.points_isPoints (List.ne_nil_of_length_pos (seven.ge.trans' (by decide)))
    rw [seven] at pointed
    exact ⟨rfl, _, rfl, pointed⟩

theorem shows_of_layers (drawn : diagram.layers = .ok layers) :
    ∃ corner, layers.Shows diagram corner := by
  obtain ⟨squares_drawn, pieces_drawn, highlights_drawn, arrows_drawn⟩ := layers_eq_ok_iff.mp drawn
  rw [Shape.squares_eq, map_eq_ok_iff] at squares_drawn
  obtain ⟨size, sized, squares_eq⟩ := squares_drawn
  rw [Shape.pieces_of_size sized] at pieces_drawn
  rw [filter_isHighlight, List.forall₂_map_left_iff] at highlights_drawn
  rw [filter_not_isHighlight, List.forall₂_map_left_iff] at arrows_drawn
  refine ⟨fun square => Shape.cornerTexts size (diagram.grid.cell square), ?_, ?_, ?_, ?_, ?_⟩
  · intro square
    simp only [Shape.cornerTexts, Shape.number, String.toList_ofList]
    exact ⟨Binary64.coordinate_isUnbroken _, Binary64.coordinate_isUnbroken _⟩
  · rw [← squares_eq, List.forall₂_map_right_iff, List.forall₂_same]
    intro square _
    exact ⟨_, rfl, rfl, rfl, rfl⟩
  · rw [← Except.ok.inj pieces_drawn, List.forall₂_map_right_iff, List.forall₂_same]
    intro occupied occupied_mem
    exact ⟨mem_all_iff.mpr (Shape.onBoard_of_occupied occupied_mem), _, _, rfl, rfl, rfl⟩
  · refine highlights_drawn.imp ?_
    intro name element shaped
    obtain ⟨square, size', on_board, rfl, sized', rfl⟩ := shape_highlight_eq_ok_iff.mp shaped
    obtain rfl := Except.ok.inj (sized.symm.trans sized')
    exact ⟨square, mem_all_iff.mpr on_board, rfl, _, rfl, rfl, rfl, rfl⟩
  · exact arrows_drawn.imp fun _ _ => isArrow_of_shape

/-! ## The loop over the marks -/

/-- Append the shape of a mark to its layer. -/
def put (grid : Grid) (layers : Layers) (mark : Mark) : Except RenderFault Layers := do
  let element ← shape grid mark
  match mark with
  | .highlight _ => return { layers with highlights := layers.highlights ++ [element] }
  | .arrow _ _ => return { layers with arrows := layers.arrows ++ [element] }

/-- The layers of a diagram, the two upper ones filled mark by mark. -/
def filled (diagram : Diagram) : Except RenderFault Layers := do
  let grid := diagram.grid
  let squares ← (Shape.squares grid diagram.style.light diagram.style.dark).mapError .geometry
  let pieces ← (Shape.pieces grid diagram.placement).mapError .geometry
  diagram.marks.foldlM (put grid) { squares, pieces, highlights := [], arrows := [] }

theorem drawn_cons (mark : Mark) (marks : List Mark) :
    drawn grid (mark :: marks) =
      shape grid mark >>= fun element =>
        (drawn grid marks).map fun entries => (mark, element) :: entries := by
  rw [drawn, List.mapM_cons]
  cases shape grid mark with
  | error fault => rfl
  | ok element => rfl

/-- Filling both layers mark by mark is drawing all marks and sorting the shapes. -/
theorem foldlM_put (marks : List Mark) (layers : Layers) :
    marks.foldlM (put grid) layers =
      (drawn grid marks).map fun entries =>
        { layers with
          highlights :=
            layers.highlights ++ (entries.filter fun entry => isHighlight entry.1).map Prod.snd
          arrows :=
            layers.arrows ++ (entries.filter fun entry => !isHighlight entry.1).map Prod.snd } := by
  induction marks generalizing layers with
  | nil => simp [drawn, Except.map, pure, Except.pure]
  | cons mark marks ih =>
      rw [List.foldlM_cons, drawn_cons, put]
      cases shape grid mark with
      | error fault => rfl
      | ok element =>
          cases mark with
          | highlight name =>
              simp only [ok_bind, pure, Except.pure, ih]
              cases drawn grid marks <;> simp [Except.map, List.filter_cons]
          | arrow start finish =>
              simp only [ok_bind, pure, Except.pure, ih]
              cases drawn grid marks <;> simp [Except.map]

/-- A drawing is made by one loop that fills the two upper layers. -/
theorem filled_eq (diagram : Diagram) : diagram.filled = diagram.layers := by
  simp only [filled, layers, foldlM_put, List.nil_append]
  rfl

/-! ## Faults -/

theorem names_of_shape {element : Element} (shaped : shape grid mark = .ok element) :
    ∀ name ∈ mark.names, IsName name := by
  rw [← check_eq_ok_iff]
  cases checked : check mark with
  | error fault =>
      rw [shape_eq_source_iff.mpr checked] at shaped
      cases shaped
  | ok done => rfl

theorem names_of_drawn {entries : List (Mark × Element)}
    (marks_drawn : drawn grid marks = .ok entries) :
    ∀ name ∈ Mark.allNames marks, IsName name := by
  intro name name_mem
  obtain ⟨mark, mark_mem, name_mem⟩ := List.mem_flatMap.mp name_mem
  obtain ⟨element, shaped⟩ := exists_drawn_iff.mp ⟨entries, marks_drawn⟩ mark mark_mem
  exact names_of_shape shaped name name_mem

/-- The loop blames a name only if it is the first bad one. -/
theorem firstWithout_of_drawn {fault : SourceFault}
    (failed : drawn grid marks = .error (.source fault)) :
    ∃ name, FirstWithout IsName (Mark.allNames marks) name ∧ fault = .square name := by
  induction marks with
  | nil => cases failed
  | cons mark marks ih =>
      simp only [drawn_cons, bind_eq_error_iff, map_eq_error_iff, shape_eq_source_iff,
        check_eq_error_iff] at failed
      simp only [Mark.allNames_cons, firstWithout_append_iff]
      rcases failed with ⟨name, first, rfl⟩ | ⟨element, shaped, failed⟩
      · exact ⟨name, Or.inl first, rfl⟩
      · obtain ⟨name, first, rfl⟩ := ih failed
        exact ⟨name, Or.inr ⟨names_of_shape shaped, first⟩, rfl⟩

theorem named_bind_eq_geometry_iff {name : String} {next : Square → Except RenderFault Element}
    {fault : GeometryFault} :
    (named name).mapError RenderFault.source >>= next = .error (.geometry fault) ↔
      ∃ square, (square.OnBoard ∧ name = square.boardName) ∧
        next square = .error (.geometry fault) := by
  simp [bind_eq_error_iff, mapError_eq_error_iff, mapError_eq_ok_iff, named_eq_ok_iff]

theorem geometry_of_shape {fault : GeometryFault}
    (failed : shape grid mark = .error (.geometry fault)) :
    fault = .widthTooLarge ∨ fault = .noLength := by
  cases mark with
  | highlight name =>
      simp only [shape, named_bind_eq_geometry_iff, mapError_eq_error_iff,
        RenderFault.geometry.injEq, exists_eq_right] at failed
      obtain ⟨square, ⟨on_board, -⟩, unsized⟩ := failed
      rw [Shape.highlight_of_onBoard on_board, map_eq_error_iff] at unsized
      exact Or.inl (Width.eq_widthTooLarge_of_squareSize unsized)
  | arrow startName finishName =>
      simp only [shape, named_bind_eq_geometry_iff, mapError_eq_error_iff,
        RenderFault.geometry.injEq, exists_eq_right] at failed
      obtain ⟨start, ⟨start_on, -⟩, finish, ⟨finish_on, -⟩, failed⟩ := failed
      rw [Shape.arrow_of_onBoard start_on finish_on, bind_eq_error_iff] at failed
      rcases failed with unsized | ⟨size, -, unshaped⟩
      · exact Or.inl (Width.eq_widthTooLarge_of_squareSize unsized)
      · rw [map_eq_error_iff, Shape.arrowShape] at unshaped
        split at unshaped
        · cases unshaped
        · exact Or.inr (Shape.eq_noLength_of_outline (map_eq_error_iff.mp unshaped))

theorem geometry_of_drawn {fault : GeometryFault}
    (failed : drawn grid marks = .error (.geometry fault)) :
    fault = .widthTooLarge ∨ fault = .noLength := by
  obtain ⟨mark, -, failed⟩ := mapM_eq_error_iff.mp failed
  simp only [bind_eq_error_iff, pure, Except.pure, reduceCtorEq, and_false, exists_false,
    or_false] at failed
  exact geometry_of_shape failed

theorem layers_eq_error {fault : RenderFault} (failed : diagram.layers = .error fault) :
    fault = .geometry .widthTooLarge ∨ drawn diagram.grid diagram.marks = .error fault := by
  simp only [Diagram.layers, bind_eq_error_iff, mapError_eq_error_iff, mapError_eq_ok_iff, pure,
    Except.pure, reduceCtorEq, and_false, exists_false, or_false] at failed
  rcases failed with ⟨cause, unsized, rfl⟩ | ⟨squares, squares_drawn, pieces_failed | ⟨_, -, failed⟩⟩
  · rw [Shape.squares_eq, map_eq_error_iff] at unsized
    rw [Width.eq_widthTooLarge_of_squareSize unsized]
    exact Or.inl rfl
  · rw [Shape.squares_eq, map_eq_ok_iff] at squares_drawn
    obtain ⟨size, sized, -⟩ := squares_drawn
    rw [Shape.pieces_of_size sized] at pieces_failed
    obtain ⟨cause, failed, -⟩ := pieces_failed
    cases failed
  · exact Or.inr failed

/-- The names of a diagram that is drawn are names of squares. -/
theorem names_of_layers (drawn : diagram.layers = .ok layers) :
    ∀ name ∈ Mark.allNames diagram.marks, IsName name := by
  simp only [Diagram.layers, bind_eq_ok_iff] at drawn
  obtain ⟨-, -, -, -, entries, marks_drawn, -⟩ := drawn
  exact names_of_drawn marks_drawn

theorem draw_eq_ok_iff {tree : Element} :
    diagram.draw = .ok tree ↔ ∃ layers, diagram.layers = .ok layers ∧ layers.tree = tree := by
  simp only [draw, bind_eq_ok_iff, pure, Except.pure, Except.ok.injEq]

theorem draw_eq_error_iff {fault : RenderFault} :
    diagram.draw = .error fault ↔ diagram.layers = .error fault := by
  simp [draw, bind_eq_error_iff, pure, Except.pure]

/-! ## Complete or none -/

/-- A drawing that meets no arithmetic fault blames the first bad name, exactly if there is one. -/
theorem draw_eq_source_iff (computed : ∀ fault, diagram.draw ≠ .error (.geometry fault))
    {fault : SourceFault} :
    diagram.draw = .error (.source fault) ↔
      ∃ name, FirstWithout IsName (Mark.allNames diagram.marks) name ∧ fault = .square name := by
  have blamed {fault : SourceFault} (failed : diagram.draw = .error (.source fault)) :
      ∃ name, FirstWithout IsName (Mark.allNames diagram.marks) name ∧ fault = .square name := by
    rcases layers_eq_error (draw_eq_error_iff.mp failed) with arithmetic | failed
    · cases arithmetic
    · exact firstWithout_of_drawn failed
  constructor
  · exact blamed
  · rintro ⟨name, first, rfl⟩
    -- There is a fault, as a complete drawing has no bad name, and it blames the same name.
    cases outcome : diagram.draw with
    | ok tree =>
        obtain ⟨layers, drawn, -⟩ := draw_eq_ok_iff.mp outcome
        obtain ⟨bad, bad_mem, not_name⟩ := exists_firstWithout_iff.mp ⟨name, first⟩
        exact absurd (names_of_layers drawn bad bad_mem) not_name
    | error fault =>
        cases fault with
        | geometry fault => exact absurd outcome (computed fault)
        | source fault =>
            obtain ⟨other, other_first, rfl⟩ := blamed outcome
            rw [first.unique other_first]

/-- A drawing has its four layers complete, or there is none.  It is the tree of one loop over the
marks, and its only arithmetic faults are a width too large for a double and an arrow without length.
Without these it is refused exactly if some mark, checked or not, has a name of no square, and then
for the first such name.  Otherwise it shows every square, piece and mark, in order and in place. -/
theorem draw_complete_or_none (diagram : Diagram) :
    diagram.draw = diagram.filled.map Layers.tree ∧
    (∀ fault, diagram.draw = .error (.geometry fault) →
      fault = .widthTooLarge ∨ fault = .noLength) ∧
    ((∀ fault, diagram.draw ≠ .error (.geometry fault)) →
      ((∃ fault, diagram.draw = .error (.source fault)) ↔
        ∃ name ∈ Mark.allNames diagram.marks, ¬ IsName name) ∧
      ∀ fault, diagram.draw = .error (.source fault) ↔
        ∃ name, FirstWithout IsName (Mark.allNames diagram.marks) name ∧ fault = .square name) ∧
    ∀ tree, diagram.draw = .ok tree →
      ∃ (layers : Layers) (corner : Square → String × String),
        tree =
          .group "chessboard"
            [ .group "squares" layers.squares,
              .group "pieces" layers.pieces,
              .group "highlights" layers.highlights,
              .group "arrows" layers.arrows ] ∧
        layers.Shows diagram corner := by
  refine ⟨?_, ?_, ?_, ?_⟩
  · rw [filled_eq]
    rfl
  · intro fault failed
    rcases layers_eq_error (draw_eq_error_iff.mp failed) with too_large | failed
    · exact Or.inl (RenderFault.geometry.inj too_large)
    · exact geometry_of_drawn failed
  · intro computed
    refine ⟨?_, fun fault => draw_eq_source_iff computed⟩
    simp only [draw_eq_source_iff computed, ← exists_firstWithout_iff]
    constructor
    · rintro ⟨_, name, first, -⟩
      exact ⟨name, first⟩
    · rintro ⟨name, first⟩
      exact ⟨_, name, first, rfl⟩
  · intro tree drawn
    obtain ⟨layers, layers_drawn, rfl⟩ := draw_eq_ok_iff.mp drawn
    obtain ⟨corner, shown⟩ := shows_of_layers layers_drawn
    exact ⟨layers, corner, rfl, shown⟩

/-- Black sees two pawns and three marks.  Two more marks that were put unchecked leave no drawing:
the first bad name is the end of an arrow. -/
theorem draw_of_unchecked_marks :
    let marked (marks : List Mark) : Diagram :=
      { placement := Placement.ofAssignment fun square =>
          if square.rank = 2 ∧ square.file ≤ 2 then some { kind := .pawn, side := .white } else none
        style := Style.default
        orientation := .black
        marks }
    let checked : List Mark := [.arrow "e2" "e4", .highlight "e4", .arrow "d4" "d4"]
    let unchecked : List Mark := [.arrow "e2" "e9", .highlight "z1"]
    (∃ layers : Layers, (marked checked).draw = .ok layers.tree ∧
      layers.squares.length = 64 ∧ layers.pieces.length = 2 ∧ layers.highlights.length = 1 ∧
        layers.arrows.length = 2) ∧
      (marked (checked ++ unchecked)).draw = .error (.source (.square "e9")) := by
  intro marked checked unchecked
  constructor
  · obtain ⟨-, -, -, complete⟩ := draw_complete_or_none (marked checked)
    have returned : (marked checked).draw.isOk := by decide +kernel
    obtain ⟨tree, drawn⟩ := isOk_iff_exists.mp returned
    obtain ⟨layers, corner, rfl, shown⟩ := complete tree drawn
    refine ⟨layers, drawn, ?_, ?_, shown.highlights.length_eq.symm, shown.arrows.length_eq.symm⟩
    · rw [← shown.squares.length_eq]
      decide
    · rw [← shown.pieces.length_eq]
      decide +kernel
  · obtain ⟨-, arithmetic, blamed, -⟩ := draw_complete_or_none (marked (checked ++ unchecked))
    have computed :
        ∀ fault ∈ [GeometryFault.widthTooLarge, .noLength],
          (marked (checked ++ unchecked)).draw.map (fun _ => ()) ≠ .error (.geometry fault) := by
      decide +kernel
    apply ((blamed ?_).2 _).mpr
    · exact ⟨"e9", ⟨["e2", "e4", "e4", "d4", "d4", "e2"], ["z1"], rfl, by decide, by decide⟩, rfl⟩
    · intro fault failed
      have possible : fault ∈ [GeometryFault.widthTooLarge, .noLength] := by
        simpa using arithmetic fault failed
      exact computed fault possible (map_eq_error_iff.mpr failed)

end Diagram
end ChessDrawing
