/-!
# Pieces of a text

This file cuts texts into pieces: at a separator, at line breaks, and at single spaces.  Cutting
never loses a character besides the separators, and a cut text always has at least one piece.
Markers are literal words that open a line.
-/

namespace ChessDrawing
namespace Text

/-- Put one more character in front of the first piece. -/
def consFirst (character : Char) : List (List Char) → List (List Char)
  | [] => [[character]]
  | piece :: pieces => (character :: piece) :: pieces

@[simp]
theorem consFirst_cons (character : Char) (piece : List Char) (pieces : List (List Char)) :
    consFirst character (piece :: pieces) = (character :: piece) :: pieces := rfl

theorem consFirst_ne_nil (character : Char) (pieces : List (List Char)) :
    consFirst character pieces ≠ [] := by
  cases pieces <;> simp [consFirst]

/-- The pieces of a text between the occurrences of a separator. -/
def split (separator : Char) : List Char → List (List Char)
  | [] => [[]]
  | character :: rest =>
      if character = separator then
        [] :: split separator rest
      else
        consFirst character (split separator rest)

@[simp]
theorem split_nil (separator : Char) : split separator [] = [[]] := rfl

@[simp]
theorem split_separator (separator : Char) (rest : List Char) :
    split separator (separator :: rest) = [] :: split separator rest := by
  simp [split]

theorem split_ne_nil (separator : Char) (text : List Char) : split separator text ≠ [] := by
  cases text with
  | nil => simp
  | cons character rest =>
      simp only [split]
      split
      · simp
      · exact consFirst_ne_nil _ _

/-- Cutting at a separator in the middle gives the pieces of both sides. -/
theorem split_append_separator (separator : Char) (left right : List Char) :
    split separator (left ++ separator :: right) =
      split separator left ++ split separator right := by
  induction left with
  | nil => simp
  | cons character left ih =>
      simp only [List.cons_append, split, ih]
      split
      · rfl
      · obtain ⟨piece, pieces, pieces_eq⟩ :=
          List.exists_cons_of_ne_nil (split_ne_nil separator left)
        simp [pieces_eq]

/-- The lines of a text; a line break is a line feed with at most one carriage return before it. -/
def lines : List Char → List (List Char)
  | [] => [[]]
  | '\r' :: '\n' :: rest => [] :: lines rest
  | '\n' :: rest => [] :: lines rest
  | character :: rest => consFirst character (lines rest)

/-- The words of a text between single spaces, the empty ones left out. -/
def words (text : List Char) : List (List Char) :=
  (split ' ' text).filter (fun word => !word.isEmpty)

@[simp]
theorem words_nil : words [] = [] := rfl

/-- The words of two texts with a space between them are the words of both. -/
theorem words_append_space (left right : List Char) :
    words (left ++ ' ' :: right) = words left ++ words right := by
  simp [words, split_append_separator]

/-- What follows a marker at the start of a text. -/
def after? : List Char → List Char → Option (List Char)
  | [], text => some text
  | _ :: _, [] => none
  | expected :: marker, character :: text =>
      if expected = character then after? marker text else none

/-- A marker is found exactly where the text is the marker and the rest. -/
theorem after?_eq_some_iff (marker text rest : List Char) :
    after? marker text = some rest ↔ text = marker ++ rest := by
  induction marker generalizing text with
  | nil => simp [after?]
  | cons expected marker ih =>
      cases text with
      | nil => simp [after?]
      | cons character text =>
          by_cases same : expected = character
          · simp [after?, same, ih]
          · simp [after?, same, Ne.symm same]

end Text
end ChessDrawing
