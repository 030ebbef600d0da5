import ChessDrawing.Proofs.Document.Run
import ChessDrawing.Proofs.Drawing.Geometry

/-!
# Isolation of blocks

A block whose source is to blame is answered with a message, and its document goes on.  This covers
every source exactly as long as the width of the style in force is below the limit: beyond it the
geometry is to blame for each diagram that can be built, and the block is not answered at all.
-/

namespace ChessDrawing

/-! ## Rendering -/

namespace Diagram

variable {style : Style}

/-- Rendering a source gives markup, or blames the source. -/
def RendersOrBlames (style : Style) (source : String) : Prop :=
  (∃ markup, render style source = .ok markup) ∨
    ∃ fault, render style source = .error (.source fault)

theorem not_rendersOrBlames_of_geometry {source : String} {fault : GeometryFault}
    (failed : render style source = .error (.geometry fault)) : ¬ RendersOrBlames style source := by
  simp [RendersOrBlames, failed]

theorem render_of_ofSource {source : String} {diagram : Diagram}
    (built : ofSource style source = .ok diagram) : render style source = diagram.svg := by
  rw [render, built]
  rfl

theorem rendersOrBlames_of_lt (valid : style.Valid) (small : style.width < Width.limit)
    (source : String) : RendersOrBlames style source := by
  cases built : ofSource style source with
  | error fault => exact Or.inr ⟨fault, render_eq_source_iff.mpr built⟩
  | ok diagram =>
      left
      rw [render_of_ofSource built]
      obtain ⟨script, placement, -, -, names, rfl⟩ := ofSource_eq_ok_iff.mp built
      exact exists_svg valid.width small names

theorem render_of_limit_le {source : String} {diagram : Diagram}
    (large : Width.limit ≤ style.width) (built : ofSource style source = .ok diagram) :
    render style source = .error (.geometry .widthTooLarge) := by
  rw [render_of_ofSource built]
  obtain ⟨script, placement, -, -, -, rfl⟩ := ofSource_eq_ok_iff.mp built
  exact svg_of_limit_le large

/-- An empty board is a diagram in every style. -/
theorem exists_diagram_of_empty (style : Style) :
    ∃ diagram, ofSource style "8/8/8/8/8/8/8/8" = .ok diagram := by
  have read : Script.ofSource "8/8/8/8/8/8/8/8" =
      .ok { position := "8/8/8/8/8/8/8/8", orientation := .white, marks := [] } := by
    decide +kernel
  have described : Placement.InGrammar (placementField "8/8/8/8/8/8/8/8") := by
    decide +kernel
  obtain ⟨placement, placed⟩ := Placement.exists_ofText_iff.mpr described
  exact ⟨_, ofSource_eq_ok_iff.mpr ⟨_, placement, read, placed, by simp, rfl⟩⟩

/-- A valid style renders or blames every source exactly if its width is below the limit. -/
theorem rendersOrBlames_iff (valid : style.Valid) :
    (∀ source, RendersOrBlames style source) ↔ style.width < Width.limit := by
  constructor
  · intro isolated
    by_contra not_small
    obtain ⟨diagram, built⟩ := exists_diagram_of_empty style
    have failed := render_of_limit_le (Int.not_lt.mp not_small) built
    exact not_rendersOrBlames_of_geometry failed (isolated _)
  · exact rendersOrBlames_of_lt valid

/-- A width of a one and 400 zeros is valid, but an empty board of this width has no markup and no
fault of its source. -/
theorem not_every_valid_style_rendersOrBlames :
    ¬ ∀ style : Style, style.Valid → ∀ source, RendersOrBlames style source := by
  intro isolated
  have valid : { Style.default with width := Int.ofNat (Nat.pow 10 400) }.Valid :=
    ⟨Style.valid_default.light, Style.valid_default.dark, by decide +kernel⟩
  have failed : render { Style.default with width := Int.ofNat (Nat.pow 10 400) }
      "8/8/8/8/8/8/8/8" = .error (.geometry .widthTooLarge) := by
    decide +kernel
  exact not_rendersOrBlames_of_geometry failed (isolated _ valid _)

end Diagram

/-! ## Blocks -/

namespace Session

variable {session next : Session} {step : Step}

/-- The block of the own language with a source. -/
def ownBlock (source : String) : Block :=
  { language := Block.ownLanguage, source }

/-- A valid style is in force, and blocks of the own language are rendered in it. -/
structure InForce (session : Session) : Prop where
  /-- The style is valid. -/
  valid : session.style.Valid
  /-- The own language is registered with the style. -/
  registered : ∃ serial, session.renderers.renderer? Block.ownLanguage =
    some { serial, run := renderIn session.style }

theorem inForce_adopt {style : Style} (valid : style.Valid) : (session.adopt style).InForce :=
  ⟨valid, _, renderer?_register_self _ _ _⟩

theorem inForce_of_moves (moves : session.Moves step next)
    (adopts : step = .load ∨ ∃ form, step = .update form) : next.InForce := by
  obtain ⟨before, style, valid, rfl⟩ := exists_adopt_of_moves moves adopts
  exact inForce_adopt valid

theorem InForce.of_moves (in_force : session.InForce) (moves : session.Moves step next)
    (foreign : ∀ run, .register Block.ownLanguage run ≠ step) : next.InForce := by
  by_cases adopts : step = .load ∨ ∃ form, step = .update form
  · exact inForce_of_moves moves adopts
  · have same_style := style_of_moves moves adopts
    have same_renderer := renderer?_of_moves moves adopts foreign
    exact ⟨same_style ▸ in_force.valid, same_style ▸ same_renderer ▸ in_force.registered⟩

theorem InForce.run {steps : List Step} (in_force : session.InForce)
    (foreign : ∀ run, .register Block.ownLanguage run ∉ steps) : (session.run steps).InForce := by
  apply run_keeps in_force
  intro step mem before next in_force moves
  apply in_force.of_moves moves
  rintro run rfl
  exact foreign run mem

theorem inForce_of_applies (applies : session.Applies step) : (session.step step).2.InForce := by
  obtain ⟨adopts, answer, answered⟩ := applies
  exact inForce_of_moves (moves_of_answer answered) adopts

/-- What the block of a source is answered with, given the result of rendering the source. -/
def answerOf : Except RenderFault String → Except StepFault RenderedBlock
  | .ok markup => .ok { language := Block.ownLanguage, content := .ok markup }
  | .error (.source fault) => .ok { language := Block.ownLanguage, content := .error fault.message }
  | .error (.geometry fault) => .error (.block (.diagram (.geometry fault)))

theorem InForce.renderBlock_eq (in_force : session.InForce) (source : String) :
    session.renderBlock (ownBlock source) = answerOf (Diagram.render session.style source) := by
  obtain ⟨serial, registered⟩ := in_force.registered
  have own : session.renderer (ownBlock source).language =
      .ok { serial, run := renderIn session.style } :=
    renderer_eq_ok_iff.mpr registered
  rw [renderBlock, own, ok_bind, Renderer.answer, ownBlock]
  simp only [renderIn]
  cases Diagram.render session.style source with
  | ok markup => rfl
  | error fault => cases fault <;> rfl

theorem exists_answer_iff {style : Style} {source : String} :
    (∃ content, answerOf (Diagram.render style source) =
        .ok { language := Block.ownLanguage, content }) ↔
      Diagram.RendersOrBlames style source := by
  unfold Diagram.RendersOrBlames
  cases Diagram.render style source with
  | ok markup => simp [answerOf]
  | error fault => cases fault <;> simp [answerOf]

/-- From an answered load or update on, until someone else registers a renderer of the own language,
a block of this language is answered with its markup or with the message of the fault of its source.
All blocks are answered exactly if rendering in the style in force gives markup or blames the source
for all sources, and this holds exactly for the widths below the limit.  From the limit on the width
is to blame for each block whose diagram can be built. -/
theorem blocks_answered_iff {steps : List Step} (applies : session.Applies step)
    (foreign : ∀ run, .register Block.ownLanguage run ∉ steps) :
    let later := (session.step step).2.run steps
    later.style.Valid ∧
      (∀ source,
        later.renderBlock (ownBlock source) = answerOf (Diagram.render later.style source)) ∧
      [ later.style.width < Width.limit,
        ∀ source, Diagram.RendersOrBlames later.style source,
        ∀ source, ∃ content, later.renderBlock (ownBlock source) =
          .ok { language := Block.ownLanguage, content } ].TFAE ∧
      (Width.limit ≤ later.style.width →
        ∀ source diagram, Diagram.ofSource later.style source = .ok diagram →
          later.renderBlock (ownBlock source) =
            .error (.block (.diagram (.geometry .widthTooLarge)))) := by
  intro later
  have in_force : later.InForce := (inForce_of_applies applies).run foreign
  refine ⟨in_force.valid, in_force.renderBlock_eq, ?_, ?_⟩
  · tfae_have 2 ↔ 1 := Diagram.rendersOrBlames_iff in_force.valid
    tfae_have 3 ↔ 2 := forall_congr' fun source => by
      rw [in_force.renderBlock_eq, exists_answer_iff]
    tfae_finish
  · intro large source diagram built
    rw [in_force.renderBlock_eq, Diagram.render_of_limit_le large built]
    rfl

/-- With a stored width of 480 an arrow is drawn and a misspelled square is answered with a message,
also after the stored settings were spoiled. -/
theorem blocks_answered_after_load :
    let session : Session :=
      { initial with
        store :=
          { rows := [(owner, .object [("boardWidthPx", .integer 480)])], refusing := false } }
    let later := (session.step .load).2.run [.seed owner (.text "blue")]
    later.style.width = 480 ∧
      (∃ content, later.renderBlock (ownBlock "8/8/8/8/8/8/8/K7\nannotations: Aa1-h8") =
        .ok { language := Block.ownLanguage, content }) ∧
      later.renderBlock (ownBlock "8/8/8/8/8/8/8/8\nannotations: Hz9") =
        .ok { language := Block.ownLanguage, content := .error "Unknown square: 'z9'" } := by
  intro session later
  have applies : session.Applies .load := by
    refine ⟨Or.inl rfl, isOk_iff_exists.mp ?_⟩
    simp only [session]
    decide +kernel
  have width_eq : later.style.width = 480 := by
    simp only [later, session]
    decide +kernel
  have small : later.style.width < Width.limit := by
    have limit_large : (480 : Int) < Width.limit := by decide +kernel
    rwa [width_eq]
  obtain ⟨-, answered, isolated, -⟩ :=
    blocks_answered_iff applies (show ∀ run, _ ∉ [Step.seed owner (.text "blue")] by simp)
  have all_answered := (isolated.out 0 2).mp small
  refine ⟨width_eq, all_answered _, ?_⟩
  have blamed : Diagram.render later.style "8/8/8/8/8/8/8/8\nannotations: Hz9" =
      .error (.source (.square "z9")) := by
    simp only [later, session]
    decide +kernel
  have message_eq : (SourceFault.square "z9").message = "Unknown square: 'z9'" := by
    decide +kernel
  rw [answered, blamed, answerOf, message_eq]

end Session
end ChessDrawing
