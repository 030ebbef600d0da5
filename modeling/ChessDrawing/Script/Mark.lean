import ChessDrawing.Text.Split

/-!
# Marks

A mark highlights one square or draws an arrow from one square to another; squares are named
by unchecked texts.  A word that begins with `H` is a highlight and one that begins with `A` an
arrow, whose two names stand around a dash; other words are no marks.
-/

namespace ChessDrawing

/-- A mark on a diagram. -/
inductive Mark where
  /-- A colored square. -/
  | highlight (square : String)
  /-- An arrow between the centers of two squares. -/
  | arrow (start finish : String)
  deriving DecidableEq

namespace Mark

/-- The first two names around dashes; a missing second name is empty. -/
def endpoints (text : List Char) : List Char × List Char :=
  match Text.split '-' text with
  | start :: finish :: _ => (start, finish)
  | [start] => (start, [])
  | [] => ([], [])

/-- The mark of one word. -/
def ofWord? : List Char → Option Mark
  | 'H' :: square => some (.highlight (String.ofList square))
  | 'A' :: ends =>
      let (start, finish) := endpoints ends
      some (.arrow (String.ofList start) (String.ofList finish))
  | _ => none

/-- The word of a mark. -/
def word : Mark → List Char
  | .highlight square => 'H' :: square.toList
  | .arrow start finish => 'A' :: start.toList ++ '-' :: finish.toList

/-- The marks of the words of a line. -/
def ofWords (line : List Char) : List Mark :=
  (Text.words line).filterMap ofWord?

theorem ofWords_append_space (left right : List Char) :
    ofWords (left ++ ' ' :: right) = ofWords left ++ ofWords right := by
  simp [ofWords, Text.words_append_space]

end Mark
end ChessDrawing
