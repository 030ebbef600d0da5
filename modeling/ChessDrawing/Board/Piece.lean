import ChessDrawing.Fault

/-!
# Pieces

A piece has a kind and a side.  It is written as one letter, a capital for White and a small letter
for Black.
-/

namespace ChessDrawing

/-- One of the two sides of the game. -/
inductive Side where
  | white
  | black
  deriving DecidableEq

namespace Side

/-- The name of a side. -/
def name : Side → String
  | white => "white"
  | black => "black"

/-- The side with the given name. -/
def ofName? (name : String) : Option Side :=
  if name = "white" then some white else if name = "black" then some black else none

@[simp]
theorem ofName?_name (side : Side) : ofName? side.name = some side := by
  cases side <;> decide

end Side

/-- The kind of a piece. -/
inductive PieceKind where
  | pawn
  | knight
  | bishop
  | rook
  | queen
  | king
  deriving DecidableEq

namespace PieceKind

/-- The name of a kind. -/
def name : PieceKind → String
  | pawn => "pawn"
  | knight => "knight"
  | bishop => "bishop"
  | rook => "rook"
  | queen => "queen"
  | king => "king"

/-- The kind with the given name. -/
def ofName? (name : String) : Option PieceKind :=
  [pawn, knight, bishop, rook, queen, king].find? fun kind => kind.name == name

@[simp]
theorem ofName?_name (kind : PieceKind) : ofName? kind.name = some kind := by
  cases kind <;> decide

end PieceKind

/-- A piece of one side. -/
structure Piece where
  /-- What the piece is. -/
  kind : PieceKind
  /-- Whose piece it is. -/
  side : Side
  deriving DecidableEq

namespace Piece

/-- The letter of a piece. -/
def letter : Piece → Char
  | { kind := .pawn, side := .white } => 'P'
  | { kind := .knight, side := .white } => 'N'
  | { kind := .bishop, side := .white } => 'B'
  | { kind := .rook, side := .white } => 'R'
  | { kind := .queen, side := .white } => 'Q'
  | { kind := .king, side := .white } => 'K'
  | { kind := .pawn, side := .black } => 'p'
  | { kind := .knight, side := .black } => 'n'
  | { kind := .bishop, side := .black } => 'b'
  | { kind := .rook, side := .black } => 'r'
  | { kind := .queen, side := .black } => 'q'
  | { kind := .king, side := .black } => 'k'

/-- The piece with the given letter. -/
def ofLetter? : Char → Option Piece
  | 'P' => some { kind := .pawn, side := .white }
  | 'N' => some { kind := .knight, side := .white }
  | 'B' => some { kind := .bishop, side := .white }
  | 'R' => some { kind := .rook, side := .white }
  | 'Q' => some { kind := .queen, side := .white }
  | 'K' => some { kind := .king, side := .white }
  | 'p' => some { kind := .pawn, side := .black }
  | 'n' => some { kind := .knight, side := .black }
  | 'b' => some { kind := .bishop, side := .black }
  | 'r' => some { kind := .rook, side := .black }
  | 'q' => some { kind := .queen, side := .black }
  | 'k' => some { kind := .king, side := .black }
  | _ => none

@[simp]
theorem ofLetter?_letter (piece : Piece) : ofLetter? piece.letter = some piece := by
  obtain ⟨kind, side⟩ := piece
  cases kind <;> cases side <;> rfl

/-- Only the letter of a piece denotes it. -/
theorem letter_of_ofLetter? {letter : Char} {piece : Piece}
    (denotes : ofLetter? letter = some piece) : piece.letter = letter := by
  unfold ofLetter? at denotes
  split at denotes <;> simp only [Option.some.injEq, reduceCtorEq] at denotes <;> subst denotes <;>
    rfl

/-- The piece that a text names by its letter alone. -/
def named (text : String) : Except SourceFault Piece :=
  match text.toList with
  | [letter] =>
      match ofLetter? letter with
      | some piece => .ok piece
      | none => .error (.letter text)
  | _ => .error (.letter text)

end Piece
end ChessDrawing
