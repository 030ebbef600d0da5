import ChessDrawing.Fault

/-!
# Squares

A square is a file and a rank.  The 64 squares of the board have both from 1 to 8 and are named by a
letter and a digit, `a1` to `h8`; naming is defined for squares off the board as long as the file
has a code point.
-/

namespace ChessDrawing

/-- A square, on the board or off it. -/
structure Square where
  /-- The file, counted from the a-file. -/
  file : Int
  /-- The rank, counted from White's side. -/
  rank : Int
  deriving DecidableEq

namespace Square

/-- The square is one of the 64 squares of the board. -/
def OnBoard (square : Square) : Prop :=
  (1 ≤ square.file ∧ square.file ≤ 8) ∧ (1 ≤ square.rank ∧ square.rank ≤ 8)

instance (square : Square) : Decidable square.OnBoard :=
  inferInstanceAs (Decidable (_ ∧ _))

/-- The board in reading order: from a8 along the ranks to h1. -/
def all : List Square :=
  [8, 7, 6, 5, 4, 3, 2, 1].flatMap fun rank =>
    [1, 2, 3, 4, 5, 6, 7, 8].map fun file => { file, rank }

/-! ## Names -/

/-- The square of the board with the given name, letter first. -/
def ofName? (name : String) : Option Square :=
  match name.toList with
  | [letter, digit] =>
      if ('a' ≤ letter ∧ letter ≤ 'h') ∧ ('1' ≤ digit ∧ digit ≤ '8') then
        some { file := letter.toNat - 96, rank := digit.toNat - 48 }
      else
        none
  | _ => none

/-- The square of the board with the given name, or the fault that there is none. -/
def named (name : String) : Except SourceFault Square :=
  match ofName? name with
  | some square => .ok square
  | none => .error (.square name)

/-- The letter of a file: the a-file has the letter `a`, and the others follow the code. -/
def fileLetter (file : Int) : Except GeometryFault (List Char) :=
  let code := file + 96
  if code < -Nat.pow 2 31 ∨ Nat.pow 2 31 ≤ code then
    .error .fileBeyondWord
  else if code < 0 ∨ 0x110000 ≤ code then
    .error .fileWithoutLetter
  else
    .ok (Text.codePoint code.toNat)

/-- The letter of the file followed by the numeral of the rank. -/
def name (square : Square) : Except GeometryFault String := do
  let letter ← fileLetter square.file
  return String.ofList (letter ++ Text.integer square.rank)

end Square
end ChessDrawing
