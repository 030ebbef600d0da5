import ChessDrawing.Proofs.Board.Canonical
import ChessDrawing.Proofs.Drawing.FirstFault
import ChessDrawing.Proofs.Run

/-!
# Runs of a diagram

A run takes steps one after the other from a diagram with any marks.  Only the builders change the
diagram: each appends its mark, or refuses it for its first name that is no square and leaves the
diagram as it is.  Drawing blames no mark that a builder put, since the builders read the names that
drawing reads again.
-/

namespace ChessDrawing
namespace Diagram

open Square

/-- The diagram after some steps. -/
abbrev run (diagram : Diagram) (steps : List Step) : Diagram :=
  runSteps (fun diagram step => (diagram.step step).2) diagram steps

/-- The steps of a run, each with its answer. -/
abbrev answers (diagram : Diagram) (steps : List Step) :
    List (Step × Except RenderFault Answer) :=
  answerSteps Diagram.step diagram steps

/-- The mark that a builder is to append; other steps append none. -/
def Step.mark? : Step → Option Mark
  | .highlight square => some (.highlight square)
  | .arrow start finish => some (.arrow start finish)
  | .mark chosen => some chosen
  | .cell _ | .draw | .svg => none

/-- The mark of a builder that was answered without a fault. -/
def placedMark? : Step × Except RenderFault Answer → Option Mark
  | (step, .ok _) => step.mark?
  | (_, .error _) => none

variable {diagram : Diagram} {step : Step} {mark : Mark}

/-! ## Steps -/

/-- Marking a diagram is the same step as calling the builder of the mark. -/
theorem step_eq_step_mark (builds : step.mark? = some mark) :
    diagram.step step = diagram.step (.mark mark) := by
  cases step with
  | highlight square =>
      obtain rfl := Option.some.inj builds
      rfl
  | arrow start finish =>
      obtain rfl := Option.some.inj builds
      rfl
  | mark other =>
      obtain rfl := Option.some.inj builds
      rfl
  | _ => cases builds

theorem step_of_names (builds : step.mark? = some mark)
    (names : ∀ name ∈ mark.names, IsName name) :
    diagram.step step = (.ok .done, { diagram with marks := diagram.marks ++ [mark] }) := by
  rw [step_eq_step_mark builds, Diagram.step, act, built]
  simp [on_addMark_of_names names]

theorem step_of_bad_name (builds : step.mark? = some mark) {name : String}
    (first : FirstWithout IsName mark.names name) :
    diagram.step step = (.error (.source (.square name)), diagram) := by
  rw [step_eq_step_mark builds, Diagram.step, act, built]
  simp [on_addMark_of_bad_name first]

/-- A builder appends its mark if all names of the mark are names of squares, and otherwise reports
the first that is not and changes nothing. -/
theorem step_builder_iff (builds : step.mark? = some mark)
    {result : Except RenderFault Answer × Diagram} :
    diagram.step step = result ↔
      ((∀ name ∈ mark.names, IsName name) ∧
        result = (.ok .done, { diagram with marks := diagram.marks ++ [mark] })) ∨
      ∃ name, FirstWithout IsName mark.names name ∧
        result = (.error (.source (.square name)), diagram) := by
  constructor
  · rintro rfl
    by_cases names : ∀ name ∈ mark.names, IsName name
    · exact Or.inl ⟨names, step_of_names builds names⟩
    · push Not at names
      obtain ⟨name, first⟩ := exists_firstWithout_iff.mpr names
      exact Or.inr ⟨name, first, step_of_bad_name builds first⟩
  · rintro (⟨names, rfl⟩ | ⟨name, first, rfl⟩)
    · exact step_of_names builds names
    · exact step_of_bad_name builds first

theorem step_builder_cases (diagram : Diagram) (builds : step.mark? = some mark) :
    ((∀ name ∈ mark.names, IsName name) ∧
        diagram.step step = (.ok .done, { diagram with marks := diagram.marks ++ [mark] })) ∨
      ∃ name, FirstWithout IsName mark.names name ∧
        diagram.step step = (.error (.source (.square name)), diagram) :=
  (step_builder_iff builds).mp rfl

theorem step_cell (diagram : Diagram) (square : String) :
    diagram.step (.cell square) =
      (((diagram.cell square).mapError .source).map .cell, diagram) := by
  simp [Diagram.step, act]

theorem step_draw (diagram : Diagram) :
    diagram.step .draw = (diagram.layers.map .layers, diagram) := by
  simp [Diagram.step, act]

theorem step_svg (diagram : Diagram) : diagram.step .svg = (diagram.svg.map .svg, diagram) := by
  simp [Diagram.step, act]

/-- A step that is not a builder changes nothing. -/
theorem step_of_mark?_eq_none (reads : step.mark? = none) : (diagram.step step).2 = diagram := by
  cases step with
  | cell square => rw [step_cell]
  | draw => rw [step_draw]
  | svg => rw [step_svg]
  | _ => cases reads

/-- A step appends the mark that it placed, and no more. -/
theorem step_appends (diagram : Diagram) (step : Step) :
    (diagram.step step).2 =
      { diagram with
        marks := diagram.marks ++ (placedMark? (step, (diagram.step step).1)).toList } := by
  cases builds : step.mark? with
  | none =>
      have nothing : placedMark? (step, (diagram.step step).1) = none := by
        cases (diagram.step step).1 with
        | ok answer => exact builds
        | error fault => rfl
      rw [nothing, step_of_mark?_eq_none builds, Option.toList_none, List.append_nil]
  | some mark =>
      obtain ⟨-, placed⟩ | ⟨name, -, refused⟩ := step_builder_cases diagram builds
      · rw [placed, placedMark?, builds, Option.toList_some]
      · rw [refused, placedMark?, Option.toList_none, List.append_nil]

/-- A run appends the marks that its steps placed, in their order. -/
theorem run_eq (diagram : Diagram) (steps : List Step) :
    diagram.run steps =
      { diagram with
        marks := diagram.marks ++ (diagram.answers steps).filterMap placedMark? } := by
  induction steps generalizing diagram with
  | nil => simp
  | cons step steps ih =>
      change (diagram.step step).2.run steps = _
      rw [ih]
      simp only [answers, answerSteps_cons]
      rw [step_appends diagram step]
      cases placed : placedMark? (step, (diagram.step step).1) with
      | none => simp [placed]
      | some mark => simp [placed]

/-! ## Marks of squares -/

/-- All names of the marks are names of squares. -/
def AllNamed (diagram : Diagram) : Prop :=
  ∀ name ∈ Mark.allNames diagram.marks, IsName name

instance (diagram : Diagram) : Decidable diagram.AllNamed :=
  inferInstanceAs (Decidable (∀ name ∈ Mark.allNames diagram.marks, IsName name))

theorem AllNamed.after_step (named : diagram.AllNamed) (step : Step) :
    (diagram.step step).2.AllNamed := by
  cases builds : step.mark? with
  | none => rwa [step_of_mark?_eq_none builds]
  | some mark =>
      obtain ⟨names, placed⟩ | ⟨name, -, refused⟩ := step_builder_cases diagram builds
      · rw [placed, AllNamed, Mark.allNames, List.flatMap_append, List.forall_mem_append]
        exact ⟨named, by simpa using names⟩
      · rwa [refused]

theorem AllNamed.run (named : diagram.AllNamed) (steps : List Step) :
    (diagram.run steps).AllNamed :=
  runSteps_keeps named fun step _ _ named => named.after_step step

theorem AllNamed.svg_ne_source (named : diagram.AllNamed) (fault : SourceFault) :
    diagram.svg ≠ .error (.source fault) := by
  intro failed
  obtain ⟨mark, mark_mem, refused⟩ := check_of_svg_error failed
  have accepted : check mark = .ok () :=
    check_eq_ok_iff.mpr fun name name_mem =>
      named name (List.mem_flatMap.mpr ⟨mark, mark_mem, name_mem⟩)
  rw [accepted] at refused
  cases refused

/-- Writing a drawing adds no fault. -/
theorem svg_eq_error_iff {fault : RenderFault} :
    diagram.svg = .error fault ↔ diagram.layers = .error fault := by
  simp [svg, draw, bind_eq_error_iff, pure, Except.pure]

/-! ## Whole runs -/

/-- After every run the diagram is the initial one with the marks of the builders that were answered
without a fault appended in their order.  The next builder appends its mark exactly if all names of
the mark are names of squares; otherwise it reports the first that is not, the start of an arrow
before its end, and changes nothing.  If the initial marks name squares only, as no marks do, then
drawing and writing the markup blame no name. -/
theorem run_appends_placed_marks (diagram : Diagram) (steps : List Step) :
    let current := diagram.run steps
    current =
        { diagram with
          marks := diagram.marks ++ (diagram.answers steps).filterMap placedMark? } ∧
      (∀ step mark, step.mark? = some mark →
        current.step step = current.step (.mark mark) ∧
          ∀ result, current.step step = result ↔
            ((∀ name ∈ mark.names, IsName name) ∧
              result = (.ok .done, { current with marks := current.marks ++ [mark] })) ∨
            ∃ name, FirstWithout IsName mark.names name ∧
              result = (.error (.source (.square name)), current)) ∧
      (diagram.AllNamed → ∀ step, step = .draw ∨ step = .svg →
        ∀ fault, (current.step step).1 ≠ .error (.source fault)) := by
  intro current
  refine ⟨run_eq diagram steps, ?_, ?_⟩
  · intro step mark builds
    exact ⟨step_eq_step_mark builds, fun _ => step_builder_iff builds⟩
  · rintro named step (rfl | rfl) fault
    · rw [step_draw]
      intro failed
      have drawing_failed := svg_eq_error_iff.mpr (map_eq_error_iff.mp failed)
      exact (named.run steps).svg_ne_source fault drawing_failed
    · rw [step_svg]
      intro failed
      exact (named.run steps).svg_ne_source fault (map_eq_error_iff.mp failed)

/-- Of three builders on a marked diagram one is refused between two others; the next arrow is refused
for its start, though its end is no square either. -/
theorem run_of_mixed_builders :
    let diagram : Diagram :=
      { placement := Placement.ofAssignment fun _ => none
        style := Style.default
        orientation := .black
        marks := [.highlight "e4"] }
    let steps : List Step :=
      [.arrow "e2" "e4", .draw, .mark (.arrow "e4" "e9"), .cell "z9", .highlight "h8"]
    let current := diagram.run steps
    current.marks = [.highlight "e4", .arrow "e2" "e4", .highlight "h8"] ∧
      current.step (.arrow "i1" "z9") = (.error (.source (.square "i1")), current) ∧
      ∀ fault, (current.step .svg).1 ≠ .error (.source fault) := by
  intro diagram steps current
  obtain ⟨-, builders, blameless⟩ := run_appends_placed_marks diagram steps
  have named : diagram.AllNamed := by decide +kernel
  refine ⟨by decide +kernel, ?_, blameless named .svg (Or.inr rfl)⟩
  apply ((builders (.arrow "i1" "z9") (.arrow "i1" "z9") rfl).2 _).mpr
  exact Or.inr ⟨"i1", ⟨[], ["z9"], rfl, by simp, by decide⟩, rfl⟩

end Diagram
end ChessDrawing
