import ChessDrawing.Board.Piece
import ChessDrawing.Script.Mark
import ChessDrawing.Text.Blank

/-!
# Scripts

A script is the source text of one diagram.  Its first line is the position; each later line that
opens with a directive sets the orientation or adds marks, and all other lines have no effect.
The last orientation counts, and the first bad one is a fault.
-/

namespace ChessDrawing

/-- What the source text of a diagram says. -/
structure Script where
  /-- The text of the position line, without its marker. -/
  position : String
  /-- The side at the bottom of the drawing. -/
  orientation : Side
  /-- The marks in the order of the text. -/
  marks : List Mark
  deriving DecidableEq

namespace Script

/-- The marker that may open the position line. -/
def positionMarker : List Char :=
  ['f', 'e', 'n', ':', ' ']

/-- The marker of an orientation line. -/
def orientationMarker : List Char :=
  ['o', 'r', 'i', 'e', 'n', 't', 'a', 't', 'i', 'o', 'n', ':', ' ']

/-- The marker of a line of marks. -/
def annotationsMarker : List Char :=
  ['a', 'n', 'n', 'o', 't', 'a', 't', 'i', 'o', 'n', 's', ':', ' ']

/-- The effect that a later line asks for. -/
inductive Directive where
  /-- Set the orientation to a value still to be read. -/
  | orientation (value : List Char)
  /-- Add the marks of a line. -/
  | marks (line : List Char)
  /-- No effect. -/
  | none
  deriving DecidableEq

/-- The directive of a line. -/
def directive (line : List Char) : Directive :=
  match Text.after? orientationMarker line with
  | some value => .orientation value
  | Option.none =>
      match Text.after? annotationsMarker line with
      | some words => .marks words
      | Option.none => .none

/-- The side that the trimmed value names. -/
def readOrientation (value : List Char) : Except SourceFault Side :=
  let name := String.ofList (Text.trim value)
  match Side.ofName? name with
  | some side => .ok side
  | none => .error (.orientation name)

/-- Carry out one later line. -/
def apply (script : Script) (line : List Char) : Except SourceFault Script :=
  match directive line with
  | .orientation value => do
      let orientation ← readOrientation value
      return { script with orientation }
  | .marks words =>
      .ok { script with marks := script.marks ++ Mark.ofWords words }
  | .none => .ok script

/-- The position line without its marker. -/
def positionOfLine (line : List Char) : List Char :=
  (Text.after? positionMarker line).getD line

/-- Read the lines of a script. -/
def ofLines : List (List Char) → Except SourceFault Script
  | [] => .ok { position := "", orientation := .white, marks := [] }
  | first :: later =>
      later.foldlM apply
        { position := String.ofList (positionOfLine first), orientation := .white,
          marks := [] }

/-- Read the source text of a diagram. -/
def ofSource (source : String) : Except SourceFault Script :=
  ofLines (Text.lines source.toList)

end Script
end ChessDrawing
