import ChessDrawing.Proofs.Script.Meaning

/-!
# Reading every source

Reading takes the first line of a source, the first character of a word, two pieces around the
dashes of an arrow, and the side of a checked name.  The guarded reader reports where one of these
is missing; it agrees with the reader on every source, so that a bad orientation is the only fault.
-/

namespace ChessDrawing
namespace Script

/-- Why guarded reading stops. -/
inductive ReadFault where
  /-- The source is to blame. -/
  | source (fault : SourceFault)
  /-- There is no first line. -/
  | noLine
  /-- A word has no first character. -/
  | emptyWord
  /-- There are no two pieces around the dashes of an arrow. -/
  | noEndpoints
  /-- A checked name is the name of no side. -/
  | noSide
  deriving DecidableEq

namespace Guarded

/-- The mark of one word by its first character. -/
def word : List Char → Except ReadFault (Option Mark)
  | [] => .error .emptyWord
  | tag :: body =>
      if tag = 'H' then
        .ok (some (.highlight (String.ofList body)))
      else if tag = 'A' then
        match Text.split '-' body ++ [[]] with
        | start :: finish :: _ =>
            .ok (some (.arrow (String.ofList start) (String.ofList finish)))
        | _ => .error .noEndpoints
      else
        .ok none

/-- Add the mark of a piece between two spaces; an empty piece is skipped. -/
def addPiece (marks : List Mark) (piece : List Char) : Except ReadFault (List Mark) :=
  if piece = [] then
    .ok marks
  else do
    let mark ← word piece
    return marks ++ mark.toList

/-- The side that the trimmed value names, found after the check of its name. -/
def orientation (value : List Char) : Except ReadFault Side :=
  let name := String.ofList (Text.trim value)
  if name ≠ Side.white.name ∧ name ≠ Side.black.name then
    .error (.source (.orientation name))
  else
    match Side.ofName? name with
    | some side => .ok side
    | none => .error .noSide

/-- Carry out one later line; a blank line is skipped. -/
def apply (script : Script) (line : List Char) : Except ReadFault Script :=
  if Text.trim line = [] then
    .ok script
  else
    match directive line with
    | .orientation value => do
        let orientation ← orientation value
        return { script with orientation }
    | .marks words => do
        let marks ← (Text.split ' ' words).foldlM addPiece []
        return { script with marks := script.marks ++ marks }
    | .none => .ok script

/-- Read the source text of a diagram. -/
def ofSource (source : String) : Except ReadFault Script :=
  match Text.lines source.toList with
  | [] => .error .noLine
  | first :: later =>
      later.foldlM apply
        { position := String.ofList (positionOfLine first), orientation := .white, marks := [] }

theorem word_eq_ofWord? {piece : List Char} (nonempty : piece ≠ []) :
    word piece = .ok (Mark.ofWord? piece) := by
  cases piece with
  | nil => exact absurd rfl nonempty
  | cons tag body =>
      by_cases highlight : tag = 'H'
      · subst highlight
        rfl
      · by_cases arrow : tag = 'A'
        · subst arrow
          obtain ⟨start, pieces, split_eq⟩ :=
            List.exists_cons_of_ne_nil (Text.split_ne_nil '-' body)
          cases pieces <;> simp [word, Mark.ofWord?, Mark.endpoints, split_eq]
        · rw [word, if_neg highlight, if_neg arrow, Mark.ofWord?]
          · intro square equal
            exact highlight (List.cons.inj equal).1
          · intro ends equal
            exact arrow (List.cons.inj equal).1

theorem foldlM_addPiece (marks : List Mark) (pieces : List (List Char)) :
    pieces.foldlM addPiece marks =
      .ok (marks ++ (pieces.filter fun piece => !piece.isEmpty).filterMap Mark.ofWord?) := by
  induction pieces generalizing marks with
  | nil => simp [pure, Except.pure]
  | cons piece pieces ih =>
      rw [List.foldlM_cons]
      by_cases empty : piece = []
      · rw [addPiece, if_pos empty, ok_bind, ih]
        simp [empty]
      · rw [addPiece, if_neg empty, word_eq_ofWord? empty, ok_bind]
        change pieces.foldlM addPiece (marks ++ (Mark.ofWord? piece).toList) = _
        rw [ih]
        cases mark : Mark.ofWord? piece <;> simp [empty, mark]

theorem orientation_eq_readOrientation (value : List Char) :
    orientation value = (readOrientation value).mapError .source := by
  simp only [orientation]
  split
  · rename_i no_name
    have bad : ¬ NamesSide value := not_or.mpr no_name
    rw [readOrientation_eq_error_iff.mpr ⟨bad, rfl⟩]
    rfl
  · rename_i named
    have good : NamesSide value := by
      by_contra bad
      exact named (not_or.mp bad)
    obtain ⟨side, read⟩ := namesSide_iff_exists.mp good
    rw [read, Side.ofName?_eq_some_iff.mpr (readOrientation_eq_ok_iff.mp read)]
    rfl

theorem apply_eq_apply (script : Script) (line : List Char) :
    apply script line = (script.apply line).mapError .source := by
  unfold apply
  split
  · rename_i blank
    rw [apply_unmarked script (unmarked_of_blank blank ⟨'o', by decide⟩)
      (unmarked_of_blank blank ⟨'a', by decide⟩)]
    rfl
  · rw [Script.apply]
    cases directive line with
    | orientation value =>
        simp only [orientation_eq_readOrientation]
        cases readOrientation value <;> rfl
    | marks words =>
        simp only [foldlM_addPiece]
        rfl
    | none => rfl

theorem foldlM_apply_eq (script : Script) (later : List (List Char)) :
    later.foldlM apply script = (later.foldlM Script.apply script).mapError .source := by
  induction later generalizing script with
  | nil => rfl
  | cons line later ih =>
      rw [List.foldlM_cons, List.foldlM_cons, apply_eq_apply]
      cases script.apply line with
      | error fault => rfl
      | ok next => exact ih next

/-- Guarded reading finds everything it takes on every source. -/
theorem ofSource_eq (source : String) :
    ofSource source = (Script.ofSource source).mapError .source := by
  obtain ⟨first, later, lines_eq⟩ := Text.exists_lines_eq_cons source.toList
  rw [ofSource, Script.ofSource, lines_eq, ofLines]
  exact foldlM_apply_eq _ later

end Guarded

/-! ## Lines that may be moved or left out -/

/-- A line without effect: a blank one or one without a marker. -/
def WithoutEffect (line : List Char) : Prop :=
  Text.trim line = [] ∨ (¬ orientationMarker <+: line ∧ ¬ annotationsMarker <+: line)

/-- Later lines after a change that keeps their meaning. -/
inductive Rearranged : List (List Char) → List (List Char) → Prop
  /-- Neighbours that do not have the same marker change places. -/
  | swap (before after : List (List Char)) {left right : List Char}
      (not_orientations : ¬ (orientationMarker <+: left ∧ orientationMarker <+: right))
      (not_annotations : ¬ (annotationsMarker <+: left ∧ annotationsMarker <+: right)) :
      Rearranged (before ++ left :: right :: after) (before ++ right :: left :: after)
  /-- A line without effect is put in. -/
  | insert (before after : List (List Char)) {line : List Char} (silent : WithoutEffect line) :
      Rearranged (before ++ after) (before ++ line :: after)
  /-- A line without effect is left out. -/
  | delete (before after : List (List Char)) {line : List Char} (silent : WithoutEffect line) :
      Rearranged (before ++ line :: after) (before ++ after)

theorem rests_swap {marker left right : List Char}
    (different : ¬ (marker <+: left ∧ marker <+: right)) (before after : List (List Char)) :
    rests marker (before ++ left :: right :: after) =
      rests marker (before ++ right :: left :: after) := by
  rw [rests_append, rests_append]
  congr 1
  by_cases marked : marker <+: left
  · have unmarked : ¬ marker <+: right := fun right_marked => different ⟨marked, right_marked⟩
    obtain ⟨rest, rfl⟩ := marked
    rw [rests_cons_marked, rests_cons_unmarked unmarked, rests_cons_unmarked unmarked,
      rests_cons_marked]
  · simp only [rests, List.filter_cons, List.isPrefixOf_iff_prefix, marked, if_false]

theorem rests_without {marker line : List Char} (unmarked : ¬ marker <+: line)
    (before after : List (List Char)) :
    rests marker (before ++ line :: after) = rests marker (before ++ after) := by
  rw [rests_append, rests_append, rests_cons_unmarked unmarked]

theorem WithoutEffect.unmarked {line : List Char} (silent : WithoutEffect line) :
    ¬ orientationMarker <+: line ∧ ¬ annotationsMarker <+: line := by
  rcases silent with blank | unmarked
  · exact ⟨unmarked_of_blank blank ⟨'o', by decide⟩, unmarked_of_blank blank ⟨'a', by decide⟩⟩
  · exact unmarked

theorem Rearranged.rests_eq {later changed : List (List Char)}
    (rearranged : Rearranged later changed) :
    rests orientationMarker later = rests orientationMarker changed ∧
      rests annotationsMarker later = rests annotationsMarker changed := by
  cases rearranged with
  | swap before after not_orientations not_annotations =>
      exact ⟨rests_swap not_orientations before after, rests_swap not_annotations before after⟩
  | insert before after silent =>
      obtain ⟨no_orientation, no_annotations⟩ := silent.unmarked
      rw [rests_without no_orientation, rests_without no_annotations]
      exact ⟨rfl, rfl⟩
  | delete before after silent =>
      obtain ⟨no_orientation, no_annotations⟩ := silent.unmarked
      rw [rests_without no_orientation, rests_without no_annotations]
      exact ⟨rfl, rfl⟩

/-! ## The meaning of a source -/

/-- What reading makes of every source: a source has exactly one list of lines, and it is read as
its position, the last orientation value and all marks, or fails with the first orientation value
that names no side.  No part of it is ever missing, and neither the order of lines of different
kinds nor a line without effect matters. -/
theorem ofSource_meaning (source : String) :
    ∃ first later, (∀ pieces, Text.Lined pieces source.toList ↔ pieces = first :: later) ∧
      (∀ script, ofSource source = .ok script ↔
        (∀ value ∈ rests orientationMarker later, NamesSide value) ∧
          (first = positionMarker ++ script.position.toList ∨
            (¬ positionMarker <+: first ∧ first = script.position.toList)) ∧
          (rests orientationMarker later = [] → script.orientation = .white) ∧
          (∀ last ∈ (rests orientationMarker later).getLast?,
            String.ofList (Text.trim last) = script.orientation.name) ∧
          script.marks = (rests annotationsMarker later).flatMap Mark.ofWords) ∧
      (∀ fault, ofSource source = .error fault ↔
        ∃ before value after, rests orientationMarker later = before ++ value :: after ∧
          (∀ earlier ∈ before, NamesSide earlier) ∧ ¬ NamesSide value ∧
            fault = .orientation (String.ofList (Text.trim value))) ∧
      Guarded.ofSource source = (ofSource source).mapError .source ∧
      ∀ changed other, Rearranged later changed → Text.Lined (first :: changed) other.toList →
        ofSource other = ofSource source := by
  obtain ⟨first, later, lines_eq⟩ := Text.exists_lines_eq_cons source.toList
  have source_eq : ofSource source = ofLines (first :: later) := by rw [ofSource, lines_eq]
  refine ⟨first, later, ?_, ?_, ?_, Guarded.ofSource_eq source, ?_⟩
  · intro pieces
    rw [Text.lined_iff, lines_eq, eq_comm]
  · intro script
    rw [source_eq, ofLines_eq_ok_iff]
  · intro fault
    rw [source_eq, ofLines_eq_error_iff]
  · intro changed other rearranged lined
    obtain ⟨same_orientations, same_annotations⟩ := rearranged.rests_eq
    rw [source_eq, ofSource, Text.lined_iff.mp lined, ofLines_cons, ofLines_cons,
      same_orientations, same_annotations]

/-- A good orientation before and after a bad one does not help. -/
theorem ofSource_of_bad_orientation :
    ofSource "8\norientation: black\r\nHe4\norientation:  pink \norientation: white" =
      .error (.orientation "pink") := by
  obtain ⟨first, later, lined, -, fails, -⟩ :=
    ofSource_meaning "8\norientation: black\r\nHe4\norientation:  pink \norientation: white"
  have lines_eq := (lined _).mp (Text.lined_iff.mpr rfl)
  have later_eq := congrArg List.tail lines_eq
  rw [List.tail_cons] at later_eq
  rw [fails, ← later_eq]
  refine ⟨["black".toList], " pink ".toList, ["white".toList], by decide, ?_, ?_, by decide⟩
  · simpa [NamesSide] using Or.inr (by decide)
  · exact not_or.mpr ⟨by decide, by decide⟩

end Script
end ChessDrawing
