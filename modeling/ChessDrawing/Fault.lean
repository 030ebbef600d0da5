import ChessDrawing.Text.Numeral
import ChessDrawing.Text.Quoted

/-!
# Faults

A fault of the source belongs to the text of one diagram: its orientation, its placement, or the
name of a square.  It has one message, which quotes the part of the text that is to blame.  A fault
of the geometry comes from the width of the board or from a square far off the board.
-/

namespace ChessDrawing

/-- What is wrong with the source text of a diagram. -/
inductive SourceFault where
  /-- The value is not the name of a side. -/
  | orientation (value : String)
  /-- The text is not a single piece letter. -/
  | letter (text : String)
  /-- The placement does not have eight ranks. -/
  | rankCount (found : Nat) (placement : String)
  /-- A rank holds a character that is neither a digit nor a piece letter. -/
  | letterOnRank (character : Char) (rank : Nat) (row : String)
  /-- A rank does not describe eight squares. -/
  | rankLength (rank found : Nat) (row : String)
  /-- The text is not the name of a square of the board. -/
  | square (name : String)
  deriving DecidableEq

namespace SourceFault

/-- The message of a fault of the source. -/
def message : SourceFault → String
  | .orientation value => "Unknown orientation " ++ Text.quoted value
  | .letter text => "Unknown piece letter: " ++ Text.quoted text
  | .rankCount found placement =>
      "Expected 8 ranks separated by '/', got " ++ String.ofList (Text.natural found) ++ ": " ++
        Text.quoted placement
  | .letterOnRank character rank row =>
      "Unknown piece letter: " ++ Text.quoted (String.singleton character) ++ " on rank " ++
        String.ofList (Text.natural rank) ++ ": " ++ Text.quoted row
  | .rankLength rank found row =>
      "Rank " ++ String.ofList (Text.natural rank) ++ " describes " ++
        String.ofList (Text.natural found) ++ " squares instead of 8: " ++ Text.quoted row
  | .square name => "Unknown square: " ++ Text.quoted name

end SourceFault

/-- Why a shape cannot be computed. -/
inductive GeometryFault where
  /-- An eighth of the width is too large for a double. -/
  | widthTooLarge
  /-- A row or column is too large for a double. -/
  | cellTooFar
  /-- An arrow has no length. -/
  | noLength
  /-- The file of a square is outside the range of code points. -/
  | fileWithoutLetter
  /-- The file of a square is outside the range of 32-bit integers. -/
  | fileBeyondWord
  deriving DecidableEq

/-- Why a diagram cannot be rendered. -/
inductive RenderFault where
  /-- The source is to blame. -/
  | source (fault : SourceFault)
  /-- The geometry is to blame. -/
  | geometry (fault : GeometryFault)
  deriving DecidableEq

end ChessDrawing
