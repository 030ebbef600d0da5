import ChessDrawing.Board.Piece
import ChessDrawing.Board.Square
import ChessDrawing.Text.Split

/-!
# Placements

A placement puts a piece or nothing on each of the 64 squares.  Its text has the ranks from the
eighth to the first with a slash between them; in a rank a letter is a piece and a digit a run of
empty squares, and the canonical text has the longest runs.  The fault of a text is the first one in
reading order.
-/

namespace ChessDrawing

/-- Eight squares side by side, the a-file first. -/
structure Rank where
  /-- What stands on each square. -/
  cells : List (Option Piece)
  /-- There are eight squares. -/
  length_cells : cells.length = 8
  deriving DecidableEq

namespace Rank

/-- The squares that one character describes. -/
def block? (character : Char) : Option (List (Option Piece)) :=
  match Text.asciiDigit? character with
  | some count => some (List.replicate count none)
  | none => (Piece.ofLetter? character).map fun piece => [some piece]

/-- The squares that a row of characters describes, or its first character that describes none. -/
def expand : List Char → Except Char (List (Option Piece))
  | [] => .ok []
  | character :: row =>
      match block? character with
      | none => .error character
      | some block => (expand row).map (block ++ ·)

/-- The rank that a row describes, given its number. -/
def ofRow (number : Nat) (row : List Char) : Except SourceFault Rank :=
  match expand row with
  | .error letter => .error (.letterOnRank letter number (String.ofList row))
  | .ok cells =>
      if length_cells : cells.length = 8 then
        .ok { cells, length_cells }
      else
        .error (.rankLength number cells.length (String.ofList row))

/-- A run of empty squares as it is written before a piece or at the end of a rank. -/
def run (empty : Nat) : List Char :=
  if empty = 0 then [] else Text.natural empty

/-- The row of some squares after a number of empty ones. -/
def rowAfter : Nat → List (Option Piece) → List Char
  | empty, [] => run empty
  | empty, none :: cells => rowAfter (empty + 1) cells
  | empty, some piece :: cells => run empty ++ piece.letter :: rowAfter 0 cells

/-- The canonical row of a rank. -/
def row (rank : Rank) : List Char :=
  rowAfter 0 rank.cells

end Rank

/-- What stands on the 64 squares of the board. -/
structure Placement where
  /-- The ranks from the eighth to the first. -/
  ranks : List Rank
  /-- There are eight ranks. -/
  length_ranks : ranks.length = 8
  deriving DecidableEq

namespace Placement

/-- The ranks that some rows describe, numbered so that the last row is the first rank. -/
def ranksOfRows : List (List Char) → Except SourceFault (List Rank)
  | [] => .ok []
  | row :: rows => do
      let rank ← Rank.ofRow (rows.length + 1) row
      let ranks ← ranksOfRows rows
      return rank :: ranks

theorem length_of_ranksOfRows {rows : List (List Char)} {ranks : List Rank}
    (described : ranksOfRows rows = .ok ranks) : ranks.length = rows.length := by
  induction rows generalizing ranks with
  | nil =>
      cases described
      rfl
  | cons row rows ih =>
      simp only [ranksOfRows] at described
      cases first : Rank.ofRow (rows.length + 1) row with
      | error fault => simp [first, bind, Except.bind] at described
      | ok rank =>
          cases later : ranksOfRows rows with
          | error fault => simp [first, later, bind, Except.bind] at described
          | ok lower =>
              simp only [first, later, bind, Except.bind, pure, Except.pure,
                Except.ok.injEq] at described
              simp [← described, ih later]

/-- The placement that a text describes. -/
def ofText (text : String) : Except SourceFault Placement :=
  let rows := Text.split '/' text.toList
  if eight : rows.length = 8 then
    match described : ranksOfRows rows with
    | .error fault => .error fault
    | .ok ranks =>
        .ok { ranks, length_ranks := (length_of_ranksOfRows described).trans eight }
  else
    .error (.rankCount rows.length text)

/-- The canonical text of a placement. -/
def text (placement : Placement) : String :=
  String.ofList (['/'].intercalate (placement.ranks.map Rank.row))

/-- The text of the placement at the start of a game. -/
def initialText : String :=
  "rnbqkbnr/pppppppp/8/8/8/8/PPPPPPPP/RNBQKBNR"

/-- What stands on a square of the board; a square off the board has no answer. -/
def cell? (placement : Placement) (square : Square) : Option (Option Piece) :=
  if square.OnBoard then do
    let rank ← placement.ranks[(8 - square.rank).toNat]?
    rank.cells[(square.file - 1).toNat]?
  else
    none

/-- The occupied squares with their pieces, in reading order. -/
def occupied (placement : Placement) : List (Square × Piece) :=
  Square.all.filterMap fun square =>
    match placement.cell? square with
    | some (some piece) => some (square, piece)
    | _ => none

/-- The empty squares in reading order. -/
def emptySquares (placement : Placement) : List Square :=
  Square.all.filter fun square => placement.cell? square == some none

end Placement
end ChessDrawing
