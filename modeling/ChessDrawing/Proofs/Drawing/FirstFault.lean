import ChessDrawing.Proofs.Board.Grammar
import ChessDrawing.Proofs.Drawing.Marks
import ChessDrawing.Proofs.Script.Meaning

/-!
# The first fault of a source

A source is at fault through an orientation value, its placement field, or the name of a square.
Rendering reports the first fault in this order, and within the values and the names the first bad
one; the style has no part in it.  Drawing never blames a source whose diagram could be built.
-/

namespace ChessDrawing

/-! ## Kinds of faults -/

/-- What a fault of the source is about. -/
inductive SourceFault.Kind where
  /-- The orientation of the diagram. -/
  | orientation
  /-- The placement of the pieces. -/
  | placement
  /-- The name of a square. -/
  | square
  deriving DecidableEq

/-- The kind of a fault. -/
def SourceFault.kind : SourceFault → SourceFault.Kind
  | .orientation _ => .orientation
  | .letter _ => .placement
  | .rankCount _ _ => .placement
  | .letterOnRank _ _ _ => .placement
  | .rankLength _ _ _ => .placement
  | .square _ => .square

theorem Rank.kind_of_ofRow {number : Nat} {row : List Char} {fault : SourceFault}
    (refused : ofRow number row = .error fault) : fault.kind = .placement := by
  unfold ofRow at refused
  split at refused
  · obtain rfl := Except.error.inj refused
    rfl
  · split at refused
    · cases refused
    · obtain rfl := Except.error.inj refused
      rfl

theorem Placement.kind_of_ranksOfRows {rows : List (List Char)} {fault : SourceFault}
    (refused : ranksOfRows rows = .error fault) : fault.kind = .placement := by
  induction rows with
  | nil => cases refused
  | cons row rows ih =>
      simp only [ranksOfRows, bind_eq_error_iff, pure, Except.pure, reduceCtorEq, and_false,
        exists_false, or_false] at refused
      rcases refused with first | ⟨rank, -, later⟩
      · exact Rank.kind_of_ofRow first
      · exact ih later

theorem Placement.kind_of_ofText {text : String} {fault : SourceFault}
    (refused : ofText text = .error fault) : fault.kind = .placement := by
  simp only [ofText] at refused
  split at refused
  · split at refused
    · rename_i first_fault described
      obtain rfl := Except.error.inj refused
      exact kind_of_ranksOfRows described
    · cases refused
  · obtain rfl := Except.error.inj refused
    rfl

namespace Diagram

open Script Square

variable {style : Style} {source : String} {diagram : Diagram} {fault : SourceFault}

/-! ## Building a diagram -/

theorem placementField_eq_head (position : List Char) :
    ((Text.trim position).splitOn ' ').head? =
      some (placementField (String.ofList position)).toList := by
  rw [placementField, String.toList_ofList, String.toList_ofList]
  induction Text.trim position with
  | nil => rfl
  | cons character text ih =>
      rw [List.splitOn_cons_eq_if_modifyHead]
      by_cases space : character = ' '
      · simp [space]
      · rw [List.takeWhile_cons]
        simp [space, ih]

theorem ofPosition_eq_ok_iff {position : String} {orientation : Side} :
    ofPosition position style orientation = .ok diagram ↔
      ∃ placement, Placement.ofText (placementField position) = .ok placement ∧
        diagram = { placement, style, orientation, marks := [] } := by
  simp only [ofPosition, bind_eq_ok_iff, pure, Except.pure, Except.ok.injEq, @eq_comm _ diagram]

theorem ofPosition_eq_error_iff {position : String} {orientation : Side} :
    ofPosition position style orientation = .error fault ↔
      Placement.ofText (placementField position) = .error fault := by
  simp [ofPosition, bind_eq_error_iff, pure, Except.pure]

theorem ofSource_eq_ok_iff :
    ofSource style source = .ok diagram ↔
      ∃ script placement, Script.ofSource source = .ok script ∧
        Placement.ofText (placementField script.position) = .ok placement ∧
          (∀ name ∈ Mark.allNames script.marks, IsName name) ∧
            diagram =
              { placement, style, orientation := script.orientation, marks := script.marks } := by
  simp only [ofSource, bind_eq_ok_iff, ofPosition_eq_ok_iff, addMarks_eq_ok_iff]
  constructor
  · rintro ⟨script, read, _, ⟨placement, placed, rfl⟩, names, rfl⟩
    exact ⟨script, placement, read, placed, names, by simp⟩
  · rintro ⟨script, placement, read, placed, names, rfl⟩
    exact ⟨script, read, _, ⟨placement, placed, rfl⟩, names, by simp⟩

theorem ofSource_eq_error_iff :
    ofSource style source = .error fault ↔
      Script.ofSource source = .error fault ∨
        ∃ script, Script.ofSource source = .ok script ∧
          (Placement.ofText (placementField script.position) = .error fault ∨
            ∃ placement, Placement.ofText (placementField script.position) = .ok placement ∧
              ∃ name, FirstWithout IsName (Mark.allNames script.marks) name ∧
                fault = .square name) := by
  simp only [ofSource, bind_eq_error_iff, ofPosition_eq_error_iff, ofPosition_eq_ok_iff,
    addMarks_eq_error_iff]
  apply or_congr_right
  constructor
  · rintro ⟨script, read, refused | ⟨_, ⟨placement, placed, rfl⟩, bad⟩⟩
    · exact ⟨script, read, Or.inl refused⟩
    · exact ⟨script, read, Or.inr ⟨placement, placed, bad⟩⟩
  · rintro ⟨script, read, refused | ⟨placement, placed, bad⟩⟩
    · exact ⟨script, read, Or.inl refused⟩
    · exact ⟨script, read, Or.inr ⟨_, ⟨placement, placed, rfl⟩, bad⟩⟩

/-! ## Drawing -/

/-- Drawing blames the source only for a mark that a builder refuses. -/
theorem check_of_svg_error (failed : diagram.svg = .error (.source fault)) :
    ∃ mark ∈ diagram.marks, check mark = .error fault := by
  simp only [svg, draw, layers, drawn, bind_eq_error_iff, mapError_eq_error_iff, pure, Except.pure,
    reduceCtorEq, and_false, exists_false, or_false, false_or, mapM_eq_error_iff,
    shape_eq_source_iff] at failed
  obtain ⟨-, -, -, -, mark, ⟨before, after, marks_eq, -⟩, refused⟩ := failed
  exact ⟨mark, by simp [marks_eq], refused⟩

/-- Rendering reports exactly the faults that are found in building the diagram. -/
theorem render_eq_source_iff :
    render style source = .error (.source fault) ↔ ofSource style source = .error fault := by
  simp only [render, bind_eq_error_iff, mapError_eq_error_iff, mapError_eq_ok_iff,
    RenderFault.source.injEq, exists_eq_right]
  constructor
  · rintro (refused | ⟨diagram, built, failed⟩)
    · exact refused
    · obtain ⟨script, placement, -, -, names, rfl⟩ := ofSource_eq_ok_iff.mp built
      obtain ⟨mark, mark_mem, refused⟩ := check_of_svg_error failed
      have accepted : check mark = .ok () := by
        apply check_eq_ok_iff.mpr
        intro name name_mem
        exact names name (List.mem_flatMap.mpr ⟨mark, mark_mem, name_mem⟩)
      rw [accepted] at refused
      cases refused
  · exact Or.inl

/-! ## The first fault -/

/-- The first fault of some orientation values, a placement field and some names, in this order. -/
inductive FirstFault (values : List (List Char)) (field : String) (names : List String) :
    SourceFault → Prop
  /-- The first value that names no side. -/
  | orientation {value : List Char} (first : FirstWithout NamesSide values value) :
      FirstFault values field names (.orientation (String.ofList (Text.trim value)))
  /-- What reading the field reports, where all values name a side. -/
  | placement {fault : SourceFault} (sides : ∀ value ∈ values, NamesSide value)
      (refused : ¬ Placement.InGrammar field) (reported : Placement.ofText field = .error fault) :
      FirstFault values field names fault
  /-- The first name of no square, where all values name a side and the field is a placement. -/
  | square {name : String} (sides : ∀ value ∈ values, NamesSide value)
      (accepted : Placement.InGrammar field) (first : FirstWithout IsName names name) :
      FirstFault values field names (.square name)

section Kinds

variable {values : List (List Char)} {field : String} {names : List String}

theorem exists_firstFault_orientation_iff :
    (∃ fault, FirstFault values field names fault ∧ fault.kind = .orientation) ↔
      ∃ value ∈ values, ¬ NamesSide value := by
  rw [← exists_firstWithout_iff]
  constructor
  · rintro ⟨fault, first_fault, kind⟩
    cases first_fault with
    | orientation first => exact ⟨_, first⟩
    | placement sides refused reported =>
        rw [Placement.kind_of_ofText reported] at kind
        cases kind
    | square sides accepted first => cases kind
  · rintro ⟨value, first⟩
    exact ⟨_, .orientation first, rfl⟩

theorem exists_firstFault_placement_iff :
    (∃ fault, FirstFault values field names fault ∧ fault.kind = .placement) ↔
      (∀ value ∈ values, NamesSide value) ∧ ¬ Placement.InGrammar field := by
  constructor
  · rintro ⟨fault, first_fault, kind⟩
    cases first_fault with
    | orientation first => cases kind
    | placement sides refused reported => exact ⟨sides, refused⟩
    | square sides accepted first => cases kind
  · rintro ⟨sides, refused⟩
    obtain ⟨fault, reported⟩ := Placement.exists_ofText_error_iff.mpr refused
    exact ⟨fault, .placement sides refused reported, Placement.kind_of_ofText reported⟩

theorem exists_firstFault_square_iff :
    (∃ fault, FirstFault values field names fault ∧ fault.kind = .square) ↔
      (∀ value ∈ values, NamesSide value) ∧ Placement.InGrammar field ∧
        ∃ name ∈ names, ¬ IsName name := by
  rw [← exists_firstWithout_iff]
  constructor
  · rintro ⟨fault, first_fault, kind⟩
    cases first_fault with
    | orientation first => cases kind
    | placement sides refused reported =>
        rw [Placement.kind_of_ofText reported] at kind
        cases kind
    | square sides accepted first => exact ⟨sides, accepted, _, first⟩
  · rintro ⟨sides, accepted, name, first⟩
    exact ⟨_, .square sides accepted first, rfl⟩

end Kinds

/-- Lines whose orientation values all name a side are read. -/
theorem exists_ofLines_of_sides (first : List Char) {later : List (List Char)}
    (sides : ∀ value ∈ rests orientationMarker later, NamesSide value) :
    ∃ script, ofLines (first :: later) = .ok script ∧
      script.position = String.ofList (positionOfLine first) ∧
        script.marks = (rests annotationsMarker later).flatMap Mark.ofWords := by
  cases read : readOrientations .white (rests orientationMarker later) with
  | error fault =>
      obtain ⟨before, value, after, values_eq, -, bad, -⟩ := readOrientations_eq_error_iff.mp read
      exact absurd (sides value (by simp [values_eq])) bad
  | ok orientation => exact ⟨_, by rw [ofLines_cons, read]; rfl, rfl, rfl⟩

/-- A diagram that cannot be built has the first fault of the values, the field and the names that
the lines of its source hold. -/
theorem ofSource_eq_error_iff_firstFault (style : Style) {first : List Char}
    {later : List (List Char)} (lines_eq : Text.lines source.toList = first :: later)
    (fault : SourceFault) :
    ofSource style source = .error fault ↔
      FirstFault (rests orientationMarker later)
        (placementField (String.ofList (positionOfLine first)))
        (Mark.allNames ((rests annotationsMarker later).flatMap Mark.ofWords)) fault := by
  have read_eq : Script.ofSource source = ofLines (first :: later) := by
    rw [Script.ofSource, lines_eq]
  rw [ofSource_eq_error_iff, read_eq]
  constructor
  · rintro (unread | ⟨script, read, refused | ⟨placement, placed, name, first_bad, rfl⟩⟩)
    · obtain ⟨before, value, after, values_eq, good, bad, rfl⟩ := ofLines_eq_error_iff.mp unread
      exact .orientation ⟨before, after, values_eq, good, bad⟩
    · have sides := (ofLines_eq_ok_iff.mp read).1
      rw [ofLines_cons, map_eq_ok_iff] at read
      obtain ⟨orientation, -, rfl⟩ := read
      exact .placement sides (Placement.exists_ofText_error_iff.mp ⟨fault, refused⟩) refused
    · have sides := (ofLines_eq_ok_iff.mp read).1
      rw [ofLines_cons, map_eq_ok_iff] at read
      obtain ⟨orientation, -, rfl⟩ := read
      exact .square sides (Placement.exists_ofText_iff.mp ⟨placement, placed⟩) first_bad
  · intro first_fault
    cases first_fault with
    | orientation first_bad =>
        obtain ⟨before, after, values_eq, good, bad⟩ := first_bad
        exact Or.inl (ofLines_eq_error_iff.mpr ⟨before, _, after, values_eq, good, bad, rfl⟩)
    | placement sides refused reported =>
        obtain ⟨script, read, position_eq, marks_eq⟩ := exists_ofLines_of_sides first sides
        rw [← position_eq] at reported
        exact Or.inr ⟨script, read, Or.inl reported⟩
    | square sides accepted first_bad =>
        obtain ⟨script, read, position_eq, marks_eq⟩ := exists_ofLines_of_sides first sides
        obtain ⟨placement, placed⟩ := Placement.exists_ofText_iff.mpr accepted
        rw [← position_eq] at placed
        rw [← marks_eq] at first_bad
        exact Or.inr ⟨script, read, Or.inr ⟨placement, placed, _, first_bad, rfl⟩⟩

/-- What rendering blames a source for is fixed by the lines of the source: it is the first fault of
its orientation values, the first field of its position and its names.  There is a fault of the
first kind exactly if some value names no side, else one of the second kind exactly if the field is
no placement, else one of the third kind exactly if some name is no square.  All styles agree. -/
theorem render_faults_of_source (source : String) :
    ∃ first later, (∀ pieces, Text.Lined pieces source.toList ↔ pieces = first :: later) ∧
      let values := rests orientationMarker later
      let field := placementField (String.ofList (positionOfLine first))
      let names := Mark.allNames ((rests annotationsMarker later).flatMap Mark.ofWords)
      ((Text.trim (positionOfLine first)).splitOn ' ').head? = some field.toList ∧
        ∀ style : Style,
          (∀ fault, render style source = .error (.source fault) ↔
            FirstFault values field names fault) ∧
          ((∃ fault, render style source = .error (.source fault) ∧ fault.kind = .orientation) ↔
            ∃ value ∈ values, ¬ NamesSide value) ∧
          ((∃ fault, render style source = .error (.source fault) ∧ fault.kind = .placement) ↔
            (∀ value ∈ values, NamesSide value) ∧ ¬ Placement.InGrammar field) ∧
          ((∃ fault, render style source = .error (.source fault) ∧ fault.kind = .square) ↔
            (∀ value ∈ values, NamesSide value) ∧ Placement.InGrammar field ∧
              ∃ name ∈ names, ¬ IsName name) ∧
          ∀ other fault, render style source = .error (.source fault) ↔
            render other source = .error (.source fault) := by
  obtain ⟨first, later, lines_eq⟩ := Text.exists_lines_eq_cons source.toList
  have reported (style : Style) (fault : SourceFault) :=
    render_eq_source_iff.trans (ofSource_eq_error_iff_firstFault style lines_eq fault)
  refine ⟨first, later, ?_, placementField_eq_head _, ?_⟩
  · intro pieces
    rw [Text.lined_iff, lines_eq, eq_comm]
  · intro style
    refine ⟨reported style, ?_, ?_, ?_, ?_⟩
    · simp only [reported, exists_firstFault_orientation_iff]
    · simp only [reported, exists_firstFault_placement_iff]
    · simp only [reported, exists_firstFault_square_iff]
    · intro other fault
      rw [reported style, reported other]

/-- Of two bad names the first is reported, though the arrow that has it starts on a square. -/
theorem render_of_two_bad_names :
    render Style.default "8/8/8/8/8/8/8/8 w - -\nannotations: He4 Ae2-e9 Hz9" =
      .error (.source (.square "e9")) := by
  obtain ⟨first, later, lined, -, reported⟩ :=
    render_faults_of_source "8/8/8/8/8/8/8/8 w - -\nannotations: He4 Ae2-e9 Hz9"
  have lines_eq :=
    (lined ["8/8/8/8/8/8/8/8 w - -".toList, "annotations: He4 Ae2-e9 Hz9".toList]).mp
      (Text.lined_iff.mpr (by decide +kernel))
  obtain ⟨rfl, rfl⟩ := List.cons.inj lines_eq
  rw [(reported Style.default).1]
  refine .square ?_ (by decide +kernel)
    ⟨["e4", "e2"], ["z9"], by decide +kernel, by decide +kernel, by decide +kernel⟩
  have no_values : rests orientationMarker ["annotations: He4 Ae2-e9 Hz9".toList] = [] := by
    decide +kernel
  rw [no_values]
  simp

end Diagram
end ChessDrawing
