import ChessDrawing.Proofs.Drawing.Faithful

/-!
# Colors in markup

The colors of a style stand in the fills of the squares and nowhere else.  An outline is a drawing
whose two colors are left open; styles of one width give every source the same outline.  Since markup
is uniquely readable, the outline painted with the colors is the only drawing that has the markup,
whatever texts the colors are.
-/

namespace ChessDrawing

open Square

/-- A drawing of the board whose two colors are left open. -/
structure Outline where
  /-- The width of the viewport. -/
  width : Int
  /-- The side of a square. -/
  size : Binary64
  /-- The side at the bottom. -/
  orientation : Side
  /-- The pieces. -/
  pieces : List Element
  /-- The highlighted squares. -/
  highlights : List Element
  /-- The arrows. -/
  arrows : List Element

namespace Outline

/-- The rectangle of a square of the board, filled with the color of its cell. -/
def tile (outline : Outline) (style : Style) (square : Square) : Element :=
  let cell := outline.orientation.cell square
  .node "rect"
    (("class", "square " ++ Shape.shade cell ++ " " ++ square.boardName) ::
      (Shape.frame outline.size cell ++ [("fill", if cell.isDark then style.dark else style.light)]))
    []

/-- The layers of an outline, with the squares in the colors of a style. -/
def layers (outline : Outline) (style : Style) : Layers :=
  { squares := all.map (outline.tile style)
    pieces := outline.pieces
    highlights := outline.highlights
    arrows := outline.arrows }

/-- The drawing with the colors of a style. -/
def painted (outline : Outline) (style : Style) : Element :=
  Shape.viewport outline.width (outline.layers style).tree

end Outline

namespace Diagram

variable {diagram : Diagram} {shown : Layers}

/-- A diagram that is drawn has an outline, and in another style of the same width it is this outline
painted with the other colors. -/
theorem exists_outline_of_layers (drawn : diagram.layers = .ok shown) :
    ∃ outline : Outline, outline.width = diagram.style.width ∧
      ∀ style : Style, style.width = diagram.style.width →
        { diagram with style }.layers = .ok (outline.layers style) := by
  obtain ⟨squares_drawn, pieces_drawn, highlights_drawn, arrows_drawn⟩ := layers_eq_ok_iff.mp drawn
  rw [Shape.squares_eq, map_eq_ok_iff] at squares_drawn
  obtain ⟨size, sized, -⟩ := squares_drawn
  let outline : Outline :=
    { width := diagram.style.width
      size
      orientation := diagram.orientation
      pieces := shown.pieces
      highlights := shown.highlights
      arrows := shown.arrows }
  refine ⟨outline, rfl, ?_⟩
  intro style same_width
  have same_grid : grid { diagram with style } = diagram.grid := by rw [grid, grid, same_width]
  rw [layers_eq_ok_iff, same_grid]
  refine ⟨?_, pieces_drawn, highlights_drawn, arrows_drawn⟩
  rw [Shape.squares_eq, sized]
  rfl

/-- Markup is uniquely readable, and colors cannot inject any.  Elements with the same markup are
equal, whatever texts their attribute values are, if their tags and attribute names have none of the
four symbols that stand behind names.  For every source that is rendered in some style there is one
outline such that in every style of this width the markup is read as the outline painted with the
two colors of that style, and as no other element. -/
theorem render_reads_as_painted_outline :
    (∀ left right : Element, left.isWellNamed → right.isWellNamed → left.render = right.render →
        left = right) ∧
      ∀ (source : String) (style : Style) (markup : String), render style source = .ok markup →
        ∃ outline : Outline, outline.width = style.width ∧
          ∀ style' : Style, style'.width = style.width →
            ∃ markup', render style' source = .ok markup' ∧
              ∀ tree : Element, tree.isWellNamed ∧ tree.render = markup' ↔
                tree = outline.painted style' := by
  refine ⟨fun _ _ => Element.eq_of_render_eq, ?_⟩
  intro source style markup rendered
  simp only [render, bind_eq_ok_iff, mapError_eq_ok_iff] at rendered
  obtain ⟨diagram, built, written⟩ := rendered
  obtain ⟨shown, drawn, -⟩ := svg_eq_ok_iff.mp written
  obtain ⟨script, placement, read, placed, names, rfl⟩ := ofSource_eq_ok_iff.mp built
  obtain ⟨outline, width_eq, drawn_in⟩ := exists_outline_of_layers drawn
  refine ⟨outline, width_eq, ?_⟩
  intro style' same_width
  have built' : ofSource style' source =
      .ok { placement, style := style', orientation := script.orientation, marks := script.marks } :=
    ofSource_eq_ok_iff.mpr ⟨script, placement, read, placed, names, rfl⟩
  have drawn' := drawn_in style' same_width
  have written' := svg_eq_ok_iff.mpr ⟨_, drawn', rfl⟩
  have well_named : (outline.painted style').isWellNamed := viewport_isWellNamed drawn' outline.width
  refine ⟨(outline.painted style').render, ?_, ?_⟩
  · rw [render, built', Outline.painted, width_eq, ← same_width]
    exact written'
  · intro tree
    constructor
    · rintro ⟨tree_named, same_markup⟩
      exact Element.eq_of_render_eq tree_named well_named same_markup
    · rintro rfl
      exact ⟨well_named, rfl⟩

/-- A value that looks escaped differs from the character it looks like, and colors that would end
their values and tags stay in the fills. -/
theorem render_of_hostile_colors :
    (Element.node "g" [("class", "\x22")] []).render ≠
        (Element.node "g" [("class", "&quot;")] []).render ∧
      ∃ (outline : Outline) (markup : String),
        render { light := "\x22/><g class=\x22&quot;", dark := "a\n</svg>", width := 320 }
            "8/8/8/8/8/8/8/K7\nannotations: Ha1" = .ok markup ∧
          ∀ tree : Element, tree.isWellNamed ∧ tree.render = markup ↔
            tree = outline.painted
              { light := "\x22/><g class=\x22&quot;", dark := "a\n</svg>", width := 320 } := by
  obtain ⟨unique, reads⟩ := render_reads_as_painted_outline
  have default_drawn :
      (render Style.default "8/8/8/8/8/8/8/K7\nannotations: Ha1").isOk = true := by
    decide +kernel
  obtain ⟨markup, rendered⟩ := isOk_iff_exists.mp default_drawn
  obtain ⟨outline, -, in_style⟩ := reads _ _ _ rendered
  refine ⟨?_, outline, in_style _ rfl⟩
  intro same
  have elements := unique _ _ (by decide) (by decide) same
  simp at elements

end Diagram
end ChessDrawing
