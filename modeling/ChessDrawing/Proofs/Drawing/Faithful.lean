import ChessDrawing.Proofs.Board.Cover
import ChessDrawing.Proofs.Drawing.FirstFault
import ChessDrawing.Proofs.Drawing.Markup
import ChessDrawing.Proofs.Drawing.Shapes

/-!
# Faithful markup

The markup of a diagram shows its placement, its highlights and its arrows, and nothing else of its
source.  Each layer of a drawing determines what it shows through the classes of its shapes, and
markup determines the layers since it is uniquely readable.
-/

namespace ChessDrawing

open Square

/-! ## Pieces -/

namespace Placement

/-- The occupied squares and their pieces determine a placement. -/
theorem eq_of_occupied_eq {left right : Placement} (same : left.occupied = right.occupied) :
    left = right := by
  have same_piece (square : Square) (piece : Piece) :
      left.cell? square = some (some piece) ↔ right.cell? square = some (some piece) := by
    rw [← mem_occupied_iff, same, mem_occupied_iff]
  apply eq_of_cell?_eq
  intro square on_board
  obtain ⟨left_cell, left_found⟩ := left.exists_cell_of_onBoard on_board
  obtain ⟨right_cell, right_found⟩ := right.exists_cell_of_onBoard on_board
  cases left_cell with
  | some piece => rw [left_found, (same_piece square piece).mp left_found]
  | none =>
      cases right_cell with
      | some piece => rw [right_found, (same_piece square piece).mpr right_found]
      | none => rw [left_found, right_found]

end Placement

theorem Side.eq_of_name_eq {left right : Side} (same : left.name = right.name) : left = right := by
  have read := Side.ofName?_name left
  rw [same, Side.ofName?_name] at read
  exact (Option.some.inj read).symm

theorem PieceKind.eq_of_name_eq {left right : PieceKind} (same : left.name = right.name) :
    left = right := by
  have read := PieceKind.ofName?_name left
  rw [same, PieceKind.ofName?_name] at read
  exact (Option.some.inj read).symm

theorem Square.length_boardName (square : Square) : square.boardName.toList.length = 2 := by
  simp [boardName]

namespace Shape

/-- The class of a piece on the board tells the piece and its square. -/
theorem eq_of_pieceClass_eq {left right : Square × Piece} (left_on : left.1.OnBoard)
    (right_on : right.1.OnBoard) (same : pieceClass left = pieceClass right) : left = right := by
  obtain ⟨left_square, left_kind, left_side⟩ := left
  obtain ⟨right_square, right_kind, right_side⟩ := right
  have texts := congrArg String.toList same
  simp only [pieceClass, String.toList_append, List.append_assoc] at texts
  have side_lengths : left_side.name.toList.length = right_side.name.toList.length := by
    cases left_side <;> cases right_side <;> rfl
  obtain ⟨sides, later⟩ := List.append_inj (List.append_cancel_left texts) side_lengths
  have name_lengths :
      (" ".toList ++ left_square.boardName.toList).length =
        (" ".toList ++ right_square.boardName.toList).length := by
    rw [List.length_append, List.length_append, length_boardName, length_boardName]
  obtain ⟨kinds, names⟩ := List.append_inj' (List.append_cancel_left later) name_lengths
  obtain rfl := Side.eq_of_name_eq (String.toList_inj.mp sides)
  obtain rfl := PieceKind.eq_of_name_eq (String.toList_inj.mp kinds)
  obtain rfl := eq_of_boardName_eq left_on right_on
    (String.toList_inj.mp (List.append_cancel_left names))
  rfl

/-- The shape of a piece on the board tells the piece and its square. -/
theorem biUnique_glyph (grid : Grid) :
    Relator.BiUnique fun (occupied : Square × Piece) element =>
      occupied.1.OnBoard ∧ glyph grid occupied.1 occupied.2 = .ok element := by
  constructor
  · rintro occupied occupied' element ⟨on_board, drawn⟩ ⟨on_board', drawn'⟩
    rw [glyph_of_onBoard on_board, map_eq_ok_iff] at drawn
    rw [glyph_of_onBoard on_board', map_eq_ok_iff] at drawn'
    obtain ⟨size, -, rfl⟩ := drawn
    obtain ⟨size', -, same⟩ := drawn'
    simp only [Element.node.injEq, List.cons.injEq, Prod.mk.injEq, true_and] at same
    exact (eq_of_pieceClass_eq on_board' on_board same.1.1).symm
  · rintro occupied element element' ⟨-, drawn⟩ ⟨-, drawn'⟩
    exact Except.ok.inj (drawn.symm.trans drawn')

/-- The layer of pieces shows the placement. -/
theorem pieces_eq_iff {grid : Grid} {left right : Placement} {shown shown' : List Element}
    (drawn : pieces grid left = .ok shown) (drawn' : pieces grid right = .ok shown') :
    shown = shown' ↔ left = right := by
  have each {placement : Placement} {elements : List Element}
      (drawn : pieces grid placement = .ok elements) :
      List.Forall₂ (fun occupied element =>
        occupied.1.OnBoard ∧ glyph grid occupied.1 occupied.2 = .ok element)
        placement.occupied elements := by
    rw [List.forall₂_and_left]
    exact ⟨fun occupied mem => onBoard_of_occupied mem, mapM_eq_ok_iff.mp drawn⟩
  have determined : left.occupied = right.occupied ↔ shown = shown' :=
    Relator.rel_eq (biUnique_glyph grid).forall₂ (each drawn) (each drawn')
  rw [← determined]
  exact ⟨Placement.eq_of_occupied_eq, congrArg Placement.occupied⟩

end Shape

/-! ## Marks -/

namespace Diagram

variable {grid : Grid}

/-- The shape of a highlight tells its square. -/
theorem biUnique_shape_highlight (grid : Grid) :
    Relator.BiUnique fun name element => shape grid (.highlight name) = .ok element := by
  constructor
  · intro name name' element shaped shaped'
    obtain ⟨square, size, -, rfl, -, rfl⟩ := shape_highlight_eq_ok_iff.mp shaped
    obtain ⟨square', size', -, rfl, -, same⟩ := shape_highlight_eq_ok_iff.mp shaped'
    simp only [Element.node.injEq, List.cons.injEq, Prod.mk.injEq, true_and] at same
    exact String.append_right_inj _ |>.mp same.1.1
  · intro name element element' shaped shaped'
    exact Except.ok.inj (shaped.symm.trans shaped')

/-- The shape of an arrow tells its start and its end. -/
theorem biUnique_shape_arrow (grid : Grid) :
    Relator.BiUnique fun (ends : String × String) element =>
      shape grid (.arrow ends.1 ends.2) = .ok element := by
  constructor
  · rintro ⟨_, _⟩ ⟨_, _⟩ element shaped shaped'
    obtain ⟨start, finish, size, tag, attributes, ⟨-, rfl⟩, ⟨-, rfl⟩, -, -, rfl⟩ :=
      shape_arrow_eq_ok_iff.mp shaped
    obtain ⟨start', finish', size', tag', attributes', ⟨-, rfl⟩, ⟨-, rfl⟩, -, -, same⟩ :=
      shape_arrow_eq_ok_iff.mp shaped'
    simp only [Element.node.injEq, List.cons.injEq, Prod.mk.injEq, true_and] at same
    have texts := congrArg String.toList same.2.1.1
    simp only [String.toList_append, List.append_assoc] at texts
    have lengths : start.boardName.toList.length = start'.boardName.toList.length := by
      rw [length_boardName, length_boardName]
    obtain ⟨starts, later⟩ := List.append_inj (List.append_cancel_left texts) lengths
    have finishes := List.append_cancel_left later
    rw [String.toList_inj.mp starts, String.toList_inj.mp finishes]
  · intro ends element element' shaped shaped'
    exact Except.ok.inj (shaped.symm.trans shaped')

/-- The layer of highlights shows the highlighted squares in order. -/
theorem highlights_eq_iff {marks marks' : List Mark} {shown shown' : List Element}
    (drawn : List.Forall₂ (fun mark element => shape grid mark = .ok element)
      (marks.filter isHighlight) shown)
    (drawn' : List.Forall₂ (fun mark element => shape grid mark = .ok element)
      (marks'.filter isHighlight) shown') :
    shown = shown' ↔ marks.filterMap Mark.highlight? = marks'.filterMap Mark.highlight? := by
  rw [filter_isHighlight, List.forall₂_map_left_iff] at drawn drawn'
  exact (Relator.rel_eq (biUnique_shape_highlight grid).forall₂ drawn drawn').symm

/-- The layer of arrows shows the starts and the ends of arrows in order. -/
theorem arrows_eq_iff {marks marks' : List Mark} {shown shown' : List Element}
    (drawn : List.Forall₂ (fun mark element => shape grid mark = .ok element)
      (marks.filter fun mark => !isHighlight mark) shown)
    (drawn' : List.Forall₂ (fun mark element => shape grid mark = .ok element)
      (marks'.filter fun mark => !isHighlight mark) shown') :
    shown = shown' ↔ marks.filterMap Mark.arrow? = marks'.filterMap Mark.arrow? := by
  rw [filter_not_isHighlight, List.forall₂_map_left_iff] at drawn drawn'
  exact (Relator.rel_eq (biUnique_shape_arrow grid).forall₂ drawn drawn').symm

end Diagram

/-! ## Layers -/

namespace Element

theorem areWellNamed_iff {elements : List Element} :
    areWellNamed elements = true ↔ ∀ element ∈ elements, element.isWellNamed = true := by
  induction elements with
  | nil => simp [areWellNamed]
  | cons element elements ih =>
      rw [areWellNamed, Bool.and_eq_true, ih, List.forall_mem_cons]

end Element

theorem Piece.artwork_isWellNamed (piece : Piece) : piece.artwork.isWellNamed := by
  obtain ⟨kind, side⟩ := piece
  cases kind <;> cases side <;> decide +kernel

namespace Diagram

variable {diagram : Diagram} {layers : Layers}

open Element Shape in
theorem shape_isWellNamed {grid : Grid} {mark : Mark} {element : Element}
    (shaped : shape grid mark = .ok element) : element.isWellNamed := by
  cases mark with
  | highlight name =>
      obtain ⟨square, size, -, -, -, rfl⟩ := shape_highlight_eq_ok_iff.mp shaped
      simp only [isWellNamed, areWellNamed, areNamed, highlightAttributes, frame, List.cons_append,
        List.nil_append, List.all_cons, List.all_nil]
      decide +kernel
  | arrow startName finishName =>
      obtain ⟨start, finish, size, tag, attributes, -, -, -, drawn, rfl⟩ :=
        shape_arrow_eq_ok_iff.mp shaped
      rw [Shape.arrowShape] at drawn
      split at drawn
      · obtain ⟨rfl, rfl⟩ := Prod.mk.inj (Except.ok.inj drawn)
        simp only [isWellNamed, areWellNamed, areNamed, ringAttributes, List.all_cons, List.all_nil]
        decide +kernel
      · obtain ⟨corners, -, pair_eq⟩ := map_eq_ok_iff.mp drawn
        obtain ⟨rfl, rfl⟩ := Prod.mk.inj pair_eq
        simp only [isWellNamed, areWellNamed, areNamed, polygonAttributes, List.all_cons,
          List.all_nil]
        decide +kernel

open Element Shape in
theorem squares_areWellNamed {grid : Grid} {light dark : String} {elements : List Element}
    (drawn : squares grid light dark = .ok elements) : areWellNamed elements := by
  rw [squares_eq, map_eq_ok_iff] at drawn
  obtain ⟨size, -, rfl⟩ := drawn
  rw [areWellNamed_iff, List.forall_mem_map]
  intro square _
  simp only [isWellNamed, areWellNamed, areNamed, frame, List.cons_append, List.nil_append,
    List.all_cons, List.all_nil]
  decide +kernel

open Element Shape in
theorem pieces_areWellNamed {grid : Grid} {placement : Placement} {elements : List Element}
    {size : Binary64} (sized : grid.width.squareSize = .ok size)
    (drawn : pieces grid placement = .ok elements) : areWellNamed elements := by
  rw [pieces_of_size sized] at drawn
  obtain rfl := Except.ok.inj drawn
  rw [areWellNamed_iff, List.forall_mem_map]
  intro occupied _
  simp only [isWellNamed, areWellNamed, areNamed, Piece.artwork_isWellNamed, List.all_cons,
    List.all_nil]
  decide +kernel

open Element in
theorem shapes_areWellNamed {grid : Grid} {marks : List Mark} {elements : List Element}
    (drawn : List.Forall₂ (fun mark element => shape grid mark = .ok element) marks elements) :
    areWellNamed elements := by
  induction drawn with
  | nil => rfl
  | cons shaped _ ih => rw [areWellNamed, shape_isWellNamed shaped, ih, Bool.and_self]

open Element Shape in
/-- Every tag and every attribute name of a drawing is a name. -/
theorem viewport_isWellNamed (drawn : diagram.layers = .ok layers) (width : Int) :
    (viewport width layers.tree).isWellNamed := by
  obtain ⟨squares_drawn, pieces_drawn, highlights_drawn, arrows_drawn⟩ :=
    layers_eq_ok_iff.mp drawn
  have sized : ∃ size, diagram.grid.width.squareSize = .ok size := by
    rw [squares_eq, map_eq_ok_iff] at squares_drawn
    exact squares_drawn.imp fun _ found => found.1
  obtain ⟨size, sized⟩ := sized
  simp only [viewport, Layers.tree, group, isWellNamed, areWellNamed, areNamed, List.all_cons,
    List.all_nil, squares_areWellNamed squares_drawn, pieces_areWellNamed sized pieces_drawn,
    shapes_areWellNamed highlights_drawn, shapes_areWellNamed arrows_drawn]
  decide +kernel

theorem svg_eq_ok_iff {markup : String} :
    diagram.svg = .ok markup ↔
      ∃ layers, diagram.layers = .ok layers ∧
        (Shape.viewport diagram.style.width layers.tree).render = markup := by
  simp only [svg, draw, bind_eq_ok_iff, pure, Except.pure, Except.ok.injEq]
  constructor
  · rintro ⟨_, ⟨layers, drawn, rfl⟩, rendered⟩
    exact ⟨layers, drawn, rendered⟩
  · rintro ⟨layers, drawn, rendered⟩
    exact ⟨_, ⟨layers, drawn, rfl⟩, rendered⟩

attribute [ext] Layers

/-- Markup of drawings determines their layers. -/
theorem layers_eq_of_render_eq {left right : Diagram} {shown shown' : Layers}
    (drawn : left.layers = .ok shown) (drawn' : right.layers = .ok shown') {width : Int}
    (same : (Shape.viewport width shown.tree).render =
      (Shape.viewport width shown'.tree).render) : shown = shown' := by
  have trees := Element.eq_of_render_eq (viewport_isWellNamed drawn width)
    (viewport_isWellNamed drawn' width) same
  simp only [Shape.viewport, Layers.tree, Element.group, Element.node.injEq, List.cons.injEq,
    true_and, and_true] at trees
  exact Layers.ext_iff.mpr trees

/-- Two diagrams of one style, seen from one side, have the same markup exactly if they have the
same pieces, the same highlights and the same arrows. -/
theorem svg_eq_iff {left right : Diagram} {markup markup' : String}
    (same_style : left.style = right.style) (same_side : left.orientation = right.orientation)
    (drawn : left.svg = .ok markup) (drawn' : right.svg = .ok markup') :
    markup = markup' ↔
      left.placement = right.placement ∧
        left.marks.filterMap Mark.highlight? = right.marks.filterMap Mark.highlight? ∧
          left.marks.filterMap Mark.arrow? = right.marks.filterMap Mark.arrow? := by
  obtain ⟨shown, shown_drawn, rfl⟩ := svg_eq_ok_iff.mp drawn
  obtain ⟨shown', shown_drawn', rfl⟩ := svg_eq_ok_iff.mp drawn'
  have same_grid : left.grid = right.grid := by rw [grid, grid, same_style, same_side]
  obtain ⟨squares, pieces, highlights, arrows⟩ := layers_eq_ok_iff.mp shown_drawn
  obtain ⟨squares', pieces', highlights', arrows'⟩ := layers_eq_ok_iff.mp shown_drawn'
  rw [same_grid] at squares pieces highlights arrows
  rw [same_style] at squares
  have same_squares : shown.squares = shown'.squares := Except.ok.inj (squares.symm.trans squares')
  have same_markup :
      (Shape.viewport left.style.width shown.tree).render =
          (Shape.viewport right.style.width shown'.tree).render ↔ shown = shown' := by
    rw [same_style]
    constructor
    · exact layers_eq_of_render_eq shown_drawn shown_drawn'
    · intro same_layers
      rw [same_layers]
  rw [same_markup, ← Shape.pieces_eq_iff pieces pieces',
    ← highlights_eq_iff highlights highlights', ← arrows_eq_iff arrows arrows']
  rw [Layers.ext_iff, and_iff_right same_squares]

/-! ## Sources -/

/-- Sources that are rendered in one style and end with the same orientation have the same markup
exactly if they describe the same placement, highlight the same squares in the same order and draw
the same arrows in the same order. -/
theorem render_eq_iff_same_meaning {style : Style} {source source' markup markup' : String}
    (rendered : render style source = .ok markup)
    (rendered' : render style source' = .ok markup') :
    ∃ script script' placement placement',
      (Script.ofSource source = .ok script ∧
          Placement.ofText (placementField script.position) = .ok placement) ∧
        (Script.ofSource source' = .ok script' ∧
            Placement.ofText (placementField script'.position) = .ok placement') ∧
          (script.orientation = script'.orientation →
            (markup = markup' ↔
              placement = placement' ∧
                script.marks.filterMap Mark.highlight? =
                  script'.marks.filterMap Mark.highlight? ∧
                script.marks.filterMap Mark.arrow? = script'.marks.filterMap Mark.arrow?)) := by
  simp only [render, bind_eq_ok_iff, mapError_eq_ok_iff] at rendered rendered'
  obtain ⟨diagram, built, drawn⟩ := rendered
  obtain ⟨diagram', built', drawn'⟩ := rendered'
  obtain ⟨script, placement, read, placed, -, diagram_eq⟩ := ofSource_eq_ok_iff.mp built
  obtain ⟨script', placement', read', placed', -, diagram_eq'⟩ := ofSource_eq_ok_iff.mp built'
  refine ⟨script, script', placement, placement', ⟨read, placed⟩, ⟨read', placed'⟩, ?_⟩
  intro same_side
  have same_style : diagram.style = diagram'.style := by rw [diagram_eq, diagram_eq']
  have same_orientation : diagram.orientation = diagram'.orientation := by
    rw [diagram_eq, diagram_eq']
    exact same_side
  rw [svg_eq_iff same_style same_orientation drawn drawn', diagram_eq, diagram_eq']

/-- A second spelling of a placement, further fields, an unknown line, an unknown word and another
order of highlights and arrows do not show. -/
theorem render_of_two_spellings :
    ∃ markup,
      render Style.default "8/8/8/8/8/8/8/K7\nannotations: Ha1 Aa1-b2 Hc3" = .ok markup ∧
        render Style.default "fen:  44/8/8/8/8/8/8/K7 w -\nhello\nannotations: Ha1 Hc3 x Aa1-b2" =
          .ok markup := by
  have plain_drawn :
      (render Style.default "8/8/8/8/8/8/8/K7\nannotations: Ha1 Aa1-b2 Hc3").isOk = true := by
    decide +kernel
  have other_drawn :
      (render Style.default
        "fen:  44/8/8/8/8/8/8/K7 w -\nhello\nannotations: Ha1 Hc3 x Aa1-b2").isOk = true := by
    decide +kernel
  obtain ⟨markup, rendered⟩ := isOk_iff_exists.mp plain_drawn
  obtain ⟨markup', rendered'⟩ := isOk_iff_exists.mp other_drawn
  obtain ⟨script, script', placement, placement', ⟨read, placed⟩, ⟨read', placed'⟩, same_iff⟩ :=
    render_eq_iff_same_meaning rendered rendered'
  have script_eq : Script.ofSource "8/8/8/8/8/8/8/K7\nannotations: Ha1 Aa1-b2 Hc3" =
      .ok { position := "8/8/8/8/8/8/8/K7"
            orientation := .white
            marks := [.highlight "a1", .arrow "a1" "b2", .highlight "c3"] } := by
    decide +kernel
  have script_eq' : Script.ofSource
      "fen:  44/8/8/8/8/8/8/K7 w -\nhello\nannotations: Ha1 Hc3 x Aa1-b2" =
      .ok { position := " 44/8/8/8/8/8/8/K7 w -"
            orientation := .white
            marks := [.highlight "a1", .highlight "c3", .arrow "a1" "b2"] } := by
    decide +kernel
  obtain rfl := Except.ok.inj (script_eq.symm.trans read)
  obtain rfl := Except.ok.inj (script_eq'.symm.trans read')
  have placements : Placement.ofText (placementField "8/8/8/8/8/8/8/K7") =
      Placement.ofText (placementField " 44/8/8/8/8/8/8/K7 w -") := by
    decide +kernel
  obtain rfl := Except.ok.inj (placed.symm.trans (placements.trans placed'))
  obtain rfl := (same_iff rfl).mpr ⟨rfl, rfl, rfl⟩
  exact ⟨markup, rendered, rendered'⟩

end Diagram
end ChessDrawing
