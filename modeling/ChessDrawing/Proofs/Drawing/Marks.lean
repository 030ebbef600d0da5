import ChessDrawing.Drawing.Diagram
import ChessDrawing.Proofs.Board.Name
import ChessDrawing.Proofs.Outcome

/-!
# Marks of a diagram

A mark gives one or two names, and it can be put on a diagram exactly if they are names of squares
of the board.  The fault of a list of marks is its first bad name.  Drawing a mark finds the same
bad name, and none where the mark was put on the diagram by a builder.
-/

namespace ChessDrawing

/-- The names of a mark, the start of an arrow before its end. -/
def Mark.names : Mark → List String
  | .highlight square => [square]
  | .arrow start finish => [start, finish]

/-- The names of some marks in order. -/
def Mark.allNames (marks : List Mark) : List String :=
  marks.flatMap Mark.names

@[simp]
theorem Mark.allNames_nil : Mark.allNames [] = [] := rfl

@[simp]
theorem Mark.allNames_cons (mark : Mark) (marks : List Mark) :
    Mark.allNames (mark :: marks) = mark.names ++ Mark.allNames marks := rfl

/-- The square of a highlight. -/
def Mark.highlight? : Mark → Option String
  | .highlight square => some square
  | .arrow _ _ => none

/-- The start and the end of an arrow. -/
def Mark.arrow? : Mark → Option (String × String)
  | .highlight _ => none
  | .arrow start finish => some (start, finish)

namespace Diagram

open Square

@[simp]
theorem isHighlight_highlight (square : String) : isHighlight (.highlight square) = true := rfl

@[simp]
theorem isHighlight_arrow (start finish : String) : isHighlight (.arrow start finish) = false := rfl

theorem filter_isHighlight (marks : List Mark) :
    marks.filter isHighlight = (marks.filterMap Mark.highlight?).map Mark.highlight := by
  induction marks with
  | nil => rfl
  | cons mark marks ih =>
      cases mark with
      | highlight square => simp [List.filter_cons, Mark.highlight?, ih]
      | arrow start finish => simp [List.filterMap_cons, Mark.highlight?, ih]

theorem filter_not_isHighlight (marks : List Mark) :
    (marks.filter fun mark => !isHighlight mark) =
      (marks.filterMap Mark.arrow?).map fun ends => Mark.arrow ends.1 ends.2 := by
  induction marks with
  | nil => rfl
  | cons mark marks ih =>
      cases mark with
      | highlight square => simp [List.filterMap_cons, Mark.arrow?, ih]
      | arrow start finish => simp [Mark.arrow?, ih]

/-! ## Builders -/

theorem check_eq_ok_iff {mark : Mark} : check mark = .ok () ↔ ∀ name ∈ mark.names, IsName name := by
  cases mark with
  | highlight square =>
      simp [check, Mark.names, bind_eq_ok_iff, ← exists_named_iff, pure, Except.pure]
  | arrow start finish =>
      simp [check, Mark.names, bind_eq_ok_iff, ← exists_named_iff, pure, Except.pure]

theorem check_eq_error_iff {mark : Mark} {fault : SourceFault} :
    check mark = .error fault ↔
      ∃ name, FirstWithout IsName mark.names name ∧ fault = .square name := by
  cases mark with
  | highlight square =>
      simp [check, Mark.names, bind_eq_error_iff, named_eq_error_iff, firstWithout_cons_iff,
        not_firstWithout_nil, pure, Except.pure]
  | arrow start finish =>
      simp [check, Mark.names, bind_eq_error_iff, named_eq_error_iff, firstWithout_cons_iff,
        not_firstWithout_nil, pure, Except.pure, exists_named_iff, or_and_right, exists_or, and_assoc]

/-- A mark of squares is appended. -/
theorem on_addMark_of_names {mark : Mark} (names : ∀ name ∈ mark.names, IsName name)
    (diagram : Diagram) :
    (addMark mark).on diagram = (.ok (), { diagram with marks := diagram.marks ++ [mark] }) := by
  simp [addMark, check_eq_ok_iff.mpr names]

/-- A mark with a bad name is refused for its first one, before anything is appended. -/
theorem on_addMark_of_bad_name {mark : Mark} {name : String}
    (first : FirstWithout IsName mark.names name) (diagram : Diagram) :
    (addMark mark).on diagram = (.error (.square name), diagram) := by
  simp [addMark, check_eq_error_iff.mpr ⟨name, first, rfl⟩]

theorem on_addMarks_of_names {marks : List Mark}
    (names : ∀ name ∈ Mark.allNames marks, IsName name) (diagram : Diagram) :
    (forM marks addMark).on diagram =
      (.ok (), { diagram with marks := diagram.marks ++ marks }) := by
  induction marks generalizing diagram with
  | nil => simp
  | cons mark marks ih =>
      rw [Mark.allNames_cons, List.forall_mem_append] at names
      rw [List.forM_cons, Action.on_bind_of_ok (on_addMark_of_names names.1 diagram), ih names.2]
      simp

/-- Some marks are refused for the first bad name among all their names. -/
theorem on_addMarks_of_bad_name {marks : List Mark} {name : String}
    (first : FirstWithout IsName (Mark.allNames marks) name) (diagram : Diagram) :
    ((forM marks addMark).on diagram).1 = .error (.square name) := by
  induction marks generalizing diagram with
  | nil => exact absurd first not_firstWithout_nil
  | cons mark marks ih =>
      rw [Mark.allNames_cons, firstWithout_append_iff] at first
      rw [List.forM_cons]
      obtain first | ⟨good, first⟩ := first
      · rw [Action.on_bind_of_error (on_addMark_of_bad_name first diagram)]
      · rw [Action.on_bind_of_ok (on_addMark_of_names good diagram)]
        exact ih first _

/-- Marks are put on a diagram exactly if all their names are names of squares. -/
theorem addMarks_eq_ok_iff {diagram result : Diagram} {marks : List Mark} :
    (forM marks addMark).after diagram = .ok result ↔
      (∀ name ∈ Mark.allNames marks, IsName name) ∧
        result = { diagram with marks := diagram.marks ++ marks } := by
  rw [Action.after_eq_ok_iff]
  by_cases names : ∀ name ∈ Mark.allNames marks, IsName name
  · rw [on_addMarks_of_names names, and_iff_right names]
    constructor
    · rintro ⟨_, placed⟩
      exact (congrArg Prod.snd placed).symm
    · rintro rfl
      exact ⟨(), rfl⟩
  · have some_bad := names
    push Not at some_bad
    obtain ⟨name, first⟩ := exists_firstWithout_iff.mpr some_bad
    refine iff_of_false ?_ fun placed => names placed.1
    rintro ⟨_, placed⟩
    have failed := on_addMarks_of_bad_name first diagram
    rw [placed] at failed
    cases failed

/-- The first bad name is the fault of some marks. -/
theorem addMarks_eq_error_iff {diagram : Diagram} {marks : List Mark} {fault : SourceFault} :
    (forM marks addMark).after diagram = .error fault ↔
      ∃ name, FirstWithout IsName (Mark.allNames marks) name ∧ fault = .square name := by
  rw [Action.after_eq_error_iff]
  constructor
  · intro failed
    by_cases names : ∀ name ∈ Mark.allNames marks, IsName name
    · rw [on_addMarks_of_names names] at failed
      cases failed
    · push Not at names
      obtain ⟨name, first⟩ := exists_firstWithout_iff.mpr names
      rw [on_addMarks_of_bad_name first] at failed
      exact ⟨name, first, (Except.error.inj failed).symm⟩
  · rintro ⟨name, first, rfl⟩
    exact on_addMarks_of_bad_name first diagram

/-! ## Shapes -/

/-- A mark that the builders refuse is not drawn, and the other way round its names are read. -/
theorem shape_eq_source_iff {grid : Grid} {mark : Mark} {fault : SourceFault} :
    shape grid mark = .error (.source fault) ↔ check mark = .error fault := by
  cases mark with
  | highlight name =>
      simp only [shape, check, bind_eq_error_iff, mapError_eq_error_iff, mapError_eq_ok_iff, pure,
        Except.pure]
      simp
  | arrow startName finishName =>
      simp only [shape, check, bind_eq_error_iff, mapError_eq_error_iff, mapError_eq_ok_iff, pure,
        Except.pure]
      simp

end Diagram
end ChessDrawing
