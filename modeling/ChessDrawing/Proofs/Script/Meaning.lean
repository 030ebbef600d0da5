import ChessDrawing.Proofs.Outcome
import ChessDrawing.Proofs.Text.Lines
import ChessDrawing.Proofs.Text.Trim
import ChessDrawing.Script.Basic

/-!
# The meaning of scripts

The later lines of a script count only through what follows the two markers.  The orientation values
decide about success, and the last of them about the side; the annotation texts add their marks in
order.  Lines without a marker have no effect, and the two kinds of marked lines do not depend on
each other.
-/

namespace ChessDrawing

theorem Side.ofName?_eq_some_iff {name : String} {side : Side} :
    ofName? name = some side ↔ name = side.name := by
  constructor
  · intro named
    unfold ofName? at named
    split at named
    · rename_i white
      obtain rfl := Option.some.inj named
      exact white
    · split at named
      · rename_i black
        obtain rfl := Option.some.inj named
        exact black
      · cases named
  · rintro rfl
    exact side.ofName?_name

namespace Script

/-- What follows a marker on the lines that begin with it, in the order of the lines. -/
def rests (marker : List Char) (lines : List (List Char)) : List (List Char) :=
  (lines.filter marker.isPrefixOf).map (·.drop marker.length)

@[simp]
theorem rests_nil (marker : List Char) : rests marker [] = [] := rfl

theorem rests_append (marker : List Char) (before after : List (List Char)) :
    rests marker (before ++ after) = rests marker before ++ rests marker after := by
  simp [rests]

theorem rests_cons_marked (marker rest : List Char) (lines : List (List Char)) :
    rests marker ((marker ++ rest) :: lines) = rest :: rests marker lines := by
  simp [rests]

theorem rests_cons_unmarked {marker line : List Char} (unmarked : ¬ marker <+: line)
    (lines : List (List Char)) : rests marker (line :: lines) = rests marker lines := by
  simp [rests, unmarked]

/-! ## One line -/

theorem after?_marker (marker rest : List Char) : Text.after? marker (marker ++ rest) = some rest :=
  (Text.after?_eq_some_iff _ _ _).mpr rfl

theorem after?_eq_none {marker line : List Char} (unmarked : ¬ marker <+: line) :
    Text.after? marker line = none := by
  rw [Option.eq_none_iff_forall_ne_some]
  intro rest found
  exact unmarked ⟨rest, ((Text.after?_eq_some_iff _ _ _).mp found).symm⟩

/-- The two markers of later lines differ in their first letter. -/
theorem not_annotations_of_orientation {line : List Char} (marked : orientationMarker <+: line) :
    ¬ annotationsMarker <+: line := by
  rintro ⟨words, rfl⟩
  obtain ⟨value, equal⟩ := marked
  exact absurd (congrArg List.head? equal) (by simp [orientationMarker, annotationsMarker])

/-- A later line has the marker of the orientation, that of the annotations, or neither. -/
theorem marker_cases (line : List Char) :
    (∃ value, line = orientationMarker ++ value) ∨ (∃ words, line = annotationsMarker ++ words) ∨
      (¬ orientationMarker <+: line ∧ ¬ annotationsMarker <+: line) := by
  by_cases orientation : orientationMarker <+: line
  · obtain ⟨value, rfl⟩ := orientation
    exact Or.inl ⟨value, rfl⟩
  · by_cases annotations : annotationsMarker <+: line
    · obtain ⟨words, rfl⟩ := annotations
      exact Or.inr (Or.inl ⟨words, rfl⟩)
    · exact Or.inr (Or.inr ⟨orientation, annotations⟩)

theorem not_orientation_of_annotations (words : List Char) :
    ¬ orientationMarker <+: annotationsMarker ++ words := by
  intro orientation
  exact not_annotations_of_orientation orientation ⟨words, rfl⟩

theorem apply_orientation (script : Script) (value : List Char) :
    script.apply (orientationMarker ++ value) =
      (readOrientation value).map fun orientation => { script with orientation } := by
  rw [apply, directive, after?_marker]
  rfl

theorem apply_annotations (script : Script) (words : List Char) :
    script.apply (annotationsMarker ++ words) =
      .ok { script with marks := script.marks ++ Mark.ofWords words } := by
  rw [apply, directive, after?_eq_none (not_orientation_of_annotations words), after?_marker]

theorem apply_unmarked (script : Script) {line : List Char}
    (no_orientation : ¬ orientationMarker <+: line)
    (no_annotations : ¬ annotationsMarker <+: line) :
    script.apply line = .ok script := by
  rw [apply, directive, after?_eq_none no_orientation, after?_eq_none no_annotations]

/-- Neither marker begins with a blank, so that a blank line has none. -/
theorem unmarked_of_blank {marker line : List Char} (blank : Text.trim line = [])
    (visible : ∃ character ∈ marker, Text.isBlank character = false) : ¬ marker <+: line := by
  intro marked
  obtain ⟨character, mem, not_blank⟩ := visible
  have is_blank := Text.trim_eq_nil_iff.mp blank character (marked.mem mem)
  simp [not_blank] at is_blank

/-! ## Orientation values -/

/-- A trimmed value is the name of a side. -/
def NamesSide (value : List Char) : Prop :=
  String.ofList (Text.trim value) = "white" ∨ String.ofList (Text.trim value) = "black"

theorem readOrientation_eq_ok_iff {value : List Char} {side : Side} :
    readOrientation value = .ok side ↔ String.ofList (Text.trim value) = side.name := by
  rw [readOrientation, ← Side.ofName?_eq_some_iff]
  cases Side.ofName? (String.ofList (Text.trim value)) <;> simp

theorem namesSide_iff_exists {value : List Char} :
    NamesSide value ↔ ∃ side, readOrientation value = .ok side := by
  simp only [readOrientation_eq_ok_iff]
  constructor
  · rintro (white | black)
    · exact ⟨.white, white⟩
    · exact ⟨.black, black⟩
  · rintro ⟨side, named⟩
    cases side with
    | white => exact Or.inl named
    | black => exact Or.inr named

theorem readOrientation_eq_error_iff {value : List Char} {fault : SourceFault} :
    readOrientation value = .error fault ↔
      ¬ NamesSide value ∧ fault = .orientation (String.ofList (Text.trim value)) := by
  rw [namesSide_iff_exists, readOrientation]
  cases Side.ofName? (String.ofList (Text.trim value)) <;> simp [eq_comm]

/-- Read orientation values one after the other; each takes the place of the one before. -/
def readOrientations (side : Side) (values : List (List Char)) : Except SourceFault Side :=
  values.foldlM (fun _ value => readOrientation value) side

theorem readOrientations_cons (side : Side) (value : List Char) (values : List (List Char)) :
    readOrientations side (value :: values) =
      readOrientation value >>= fun next => readOrientations next values := rfl

/-- All values are read if all name a side, and then the last one counts. -/
theorem readOrientations_eq_ok_iff {start side : Side} {values : List (List Char)} :
    readOrientations start values = .ok side ↔
      (∀ value ∈ values, NamesSide value) ∧ (values = [] → side = start) ∧
        ∀ last ∈ values.getLast?, String.ofList (Text.trim last) = side.name := by
  induction values generalizing start with
  | nil => simp [readOrientations, pure, Except.pure, eq_comm]
  | cons value values ih =>
      simp only [readOrientations_cons, bind_eq_ok_iff, ih, List.forall_mem_cons]
      cases values with
      | nil =>
          simp only [namesSide_iff_exists, readOrientation_eq_ok_iff]
          constructor
          · rintro ⟨first, named, -, same, -⟩
            obtain rfl := same trivial
            simpa using ⟨⟨_, named⟩, named⟩
          · rintro ⟨-, -, named⟩
            exact ⟨side, by simpa using named, by simp⟩
      | cons next values =>
          rw [List.getLast?_cons_cons, namesSide_iff_exists]
          constructor
          · rintro ⟨first, read, each, -, last⟩
            exact ⟨⟨⟨first, read⟩, each⟩, by simp, last⟩
          · rintro ⟨⟨⟨first, read⟩, each⟩, -, last⟩
            exact ⟨first, read, each, by simp, last⟩

/-- The first value that names no side is the fault. -/
theorem readOrientations_eq_error_iff {start : Side} {values : List (List Char)}
    {fault : SourceFault} :
    readOrientations start values = .error fault ↔
      ∃ before value after, values = before ++ value :: after ∧
        (∀ earlier ∈ before, NamesSide earlier) ∧ ¬ NamesSide value ∧
          fault = .orientation (String.ofList (Text.trim value)) := by
  induction values generalizing start with
  | nil => simp [readOrientations, pure, Except.pure]
  | cons first values ih =>
      simp only [readOrientations_cons, bind_eq_error_iff, ih, readOrientation_eq_error_iff]
      constructor
      · rintro (⟨bad, rfl⟩ | ⟨side, read, before, value, after, rfl, good, bad, rfl⟩)
        · exact ⟨[], first, values, rfl, by simp, bad, rfl⟩
        · refine ⟨first :: before, value, after, rfl, ?_, bad, rfl⟩
          rw [List.forall_mem_cons]
          exact ⟨namesSide_iff_exists.mpr ⟨side, read⟩, good⟩
      · rintro ⟨before, value, after, values_eq, good, bad, rfl⟩
        cases before with
        | nil =>
            obtain ⟨rfl, rfl⟩ := List.cons.inj values_eq
            exact Or.inl ⟨bad, rfl⟩
        | cons earlier before =>
            obtain ⟨rfl, rfl⟩ := List.cons.inj values_eq
            rw [List.forall_mem_cons] at good
            obtain ⟨side, read⟩ := namesSide_iff_exists.mp good.1
            exact Or.inr ⟨side, read, before, value, after, rfl, good.2, bad, rfl⟩

/-! ## Whole scripts -/

/-- The later lines come down to their orientation values and their annotation texts. -/
theorem foldlM_apply (script : Script) (later : List (List Char)) :
    later.foldlM apply script =
      (readOrientations script.orientation (rests orientationMarker later)).map fun orientation =>
        { script with
          orientation
          marks := script.marks ++ (rests annotationsMarker later).flatMap Mark.ofWords } := by
  induction later generalizing script with
  | nil => simp [readOrientations, Except.map, pure, Except.pure]
  | cons line later ih =>
      rw [List.foldlM_cons]
      rcases marker_cases line with ⟨value, rfl⟩ | ⟨words, rfl⟩ | ⟨no_orientation, no_annotations⟩
      · have no_annotations : ¬ annotationsMarker <+: orientationMarker ++ value :=
          not_annotations_of_orientation ⟨value, rfl⟩
        rw [apply_orientation, rests_cons_marked, rests_cons_unmarked no_annotations,
          readOrientations, List.foldlM_cons]
        cases readOrientation value with
        | error fault => rfl
        | ok orientation => exact ih _
      · rw [apply_annotations, ok_bind, ih, rests_cons_marked,
          rests_cons_unmarked (not_orientation_of_annotations words)]
        simp
      · rw [apply_unmarked script no_orientation no_annotations, ok_bind, ih,
          rests_cons_unmarked no_orientation, rests_cons_unmarked no_annotations]

theorem positionOfLine_eq_iff {line position : List Char} :
    positionOfLine line = position ↔
      line = positionMarker ++ position ∨ (¬ positionMarker <+: line ∧ line = position) := by
  unfold positionOfLine
  by_cases marked : positionMarker <+: line
  · obtain ⟨rest, rfl⟩ := marked
    simp [after?_marker]
  · have other : line ≠ positionMarker ++ position := by
      rintro rfl
      exact marked (List.prefix_append _ _)
    simp [after?_eq_none marked, marked, other]

/-- A script is its position line and what follows the two markers on the later lines. -/
theorem ofLines_cons (first : List Char) (later : List (List Char)) :
    ofLines (first :: later) =
      (readOrientations .white (rests orientationMarker later)).map fun orientation =>
        { position := String.ofList (positionOfLine first)
          orientation
          marks := (rests annotationsMarker later).flatMap Mark.ofWords } := by
  rw [ofLines, foldlM_apply, List.nil_append]

theorem ofLines_eq_ok_iff {first : List Char} {later : List (List Char)} {script : Script} :
    ofLines (first :: later) = .ok script ↔
      (∀ value ∈ rests orientationMarker later, NamesSide value) ∧
        (first = positionMarker ++ script.position.toList ∨
          (¬ positionMarker <+: first ∧ first = script.position.toList)) ∧
        (rests orientationMarker later = [] → script.orientation = .white) ∧
        (∀ last ∈ (rests orientationMarker later).getLast?,
          String.ofList (Text.trim last) = script.orientation.name) ∧
        script.marks = (rests annotationsMarker later).flatMap Mark.ofWords := by
  obtain ⟨position, orientation, marks⟩ := script
  have position_eq : String.ofList (positionOfLine first) = position ↔
      positionOfLine first = position.toList := by
    rw [← String.toList_inj, String.toList_ofList]
  simp only [ofLines_cons, map_eq_ok_iff, mk.injEq, position_eq, positionOfLine_eq_iff]
  constructor
  · rintro ⟨side, read, named, rfl, rfl⟩
    obtain ⟨each, absent, last⟩ := readOrientations_eq_ok_iff.mp read
    exact ⟨each, named, absent, last, rfl⟩
  · rintro ⟨each, named, absent, last, rfl⟩
    exact ⟨orientation, readOrientations_eq_ok_iff.mpr ⟨each, absent, last⟩, named, rfl, rfl⟩

theorem ofLines_eq_error_iff {first : List Char} {later : List (List Char)} {fault : SourceFault} :
    ofLines (first :: later) = .error fault ↔
      ∃ before value after, rests orientationMarker later = before ++ value :: after ∧
        (∀ earlier ∈ before, NamesSide earlier) ∧ ¬ NamesSide value ∧
          fault = .orientation (String.ofList (Text.trim value)) := by
  rw [ofLines_cons, map_eq_error_iff, readOrientations_eq_error_iff]

end Script
end ChessDrawing
