import ChessDrawing.Proofs.Board.Name
import ChessDrawing.Proofs.Board.Grammar

/-!
# Filling a board

A text can be read by filling squares one after the other: each symbol fills the next files of its
rank, on the board or beyond, and only the end of a row counts them.  After a row exactly the
squares of its rank are filled besides those before, so the filled squares of a text that is read
are the squares of the board.
-/

namespace ChessDrawing

/-- What stands on the squares that were filled. -/
abbrev Filling :=
  Square → Option (Option Piece)

namespace Filling

/-- No square is filled. -/
def empty : Filling :=
  fun _ => none

/-- What stands on a square; a square that was not filled is the fault. -/
def cell (filling : Filling) (square : Square) : Except Square (Option Piece) :=
  match filling square with
  | some cell => .ok cell
  | none => .error square

/-- The squares of the board with what stands on them, in reading order. -/
def cells (filling : Filling) : Except Square (List (Square × Option Piece)) :=
  Square.all.mapM fun square => do
    let cell ← filling.cell square
    return (square, cell)

/-- The occupied squares with their pieces, in reading order. -/
def occupied (filling : Filling) : Except Square (List (Square × Piece)) := do
  let cells ← filling.cells
  return cells.filterMap fun entry => entry.2.map fun piece => (entry.1, piece)

/-- The empty squares in reading order. -/
def emptySquares (filling : Filling) : Except Square (List Square) := do
  let cells ← filling.cells
  return (cells.filter fun entry => entry.2 == none).map Prod.fst

/-! ## Reading by filling -/

/-- A filling within a rank, with the file that comes next. -/
structure Cursor where
  /-- The squares filled so far. -/
  filling : Filling
  /-- The next file. -/
  file : Nat

/-- Fill the next file of a rank. -/
def Cursor.put (number : Nat) (cursor : Cursor) (cell : Option Piece) : Cursor where
  filling := Function.update cursor.filling { file := cursor.file, rank := number } (some cell)
  file := cursor.file + 1

@[simp]
theorem Cursor.file_put (number : Nat) (cursor : Cursor) (cell : Option Piece) :
    (cursor.put number cell).file = cursor.file + 1 := rfl

/-- Fill a number of files with nothing. -/
def Cursor.skip (number : Nat) : Nat → Cursor → Cursor
  | 0, cursor => cursor
  | count + 1, cursor => skip number count (cursor.put number none)

/-- Fill what a symbol describes. -/
def Cursor.read (number : Nat) (cursor : Cursor) (symbol : Char) : Except Char Cursor :=
  match Text.asciiDigit? symbol with
  | some count => .ok (cursor.skip number count)
  | none =>
      match Piece.ofLetter? symbol with
      | some piece => .ok (cursor.put number (some piece))
      | none => .error symbol

/-- Fill the squares of a row, given the number of its rank. -/
def readRow (number : Nat) (row : List Char) (filling : Filling) : Except SourceFault Filling :=
  match row.foldlM (Cursor.read number) { filling, file := 1 } with
  | .error letter => .error (.letterOnRank letter number (String.ofList row))
  | .ok cursor =>
      if cursor.file - 1 = 8 then
        .ok cursor.filling
      else
        .error (.rankLength number (cursor.file - 1) (String.ofList row))

/-- Fill the squares of some rows, numbered so that the last row is the first rank. -/
def readRows : List (List Char) → Filling → Except SourceFault Filling
  | [], filling => .ok filling
  | row :: rows, filling => readRow (rows.length + 1) row filling >>= readRows rows

/-- Fill the squares that a text describes. -/
def ofText (text : String) : Except SourceFault Filling :=
  let rows := Text.split '/' text.toList
  if rows.length = 8 then readRows rows empty else .error (.rankCount rows.length text)

/-! ## Rows -/

theorem Cursor.skip_eq (number count : Nat) (cursor : Cursor) :
    cursor.skip number count = (List.replicate count none).foldl (put number) cursor := by
  induction count generalizing cursor with
  | zero => rfl
  | succ count ih => rw [skip, ih, List.replicate_succ, List.foldl_cons]

theorem Cursor.read_eq (number : Nat) (cursor : Cursor) (symbol : Char) :
    cursor.read number symbol =
      match Rank.block? symbol with
      | some block => .ok (block.foldl (put number) cursor)
      | none => .error symbol := by
  rw [read, Rank.block?]
  cases Text.asciiDigit? symbol with
  | some count => simp [skip_eq]
  | none => cases Piece.ofLetter? symbol <;> rfl

/-- Reading a row fills the cells to which it expands. -/
theorem foldlM_read (number : Nat) (row : List Char) (cursor : Cursor) :
    row.foldlM (Cursor.read number) cursor =
      (Rank.expand row).map fun cells => cells.foldl (Cursor.put number) cursor := by
  induction row generalizing cursor with
  | nil => rfl
  | cons symbol row ih =>
      rw [List.foldlM_cons, Cursor.read_eq, Rank.expand]
      cases Rank.block? symbol with
      | none => rfl
      | some block =>
          rw [ok_bind, ih]
          cases Rank.expand row with
          | error letter => rfl
          | ok cells => simp

theorem file_foldl_put (number : Nat) (cells : List (Option Piece)) (cursor : Cursor) :
    (cells.foldl (Cursor.put number) cursor).file = cursor.file + cells.length := by
  induction cells generalizing cursor with
  | nil => rfl
  | cons cell cells ih =>
      rw [List.foldl_cons, ih, Cursor.file_put, List.length_cons]
      omega

theorem filling_put (number : Nat) (cursor : Cursor) (cell : Option Piece) (square : Square) :
    (cursor.put number cell).filling square =
      if square.rank = number ∧ square.file = cursor.file then
        some cell
      else
        cursor.filling square := by
  obtain ⟨file, rank⟩ := square
  simp only [Cursor.put, Function.update_apply, Square.mk.injEq, and_comm]

/-- Cells fill as many files of their rank, from the next one on, and no other square. -/
theorem filling_foldl_put (number : Nat) (cells : List (Option Piece)) (cursor : Cursor)
    (square : Square) :
    (cells.foldl (Cursor.put number) cursor).filling square =
      if square.rank = number ∧ cursor.file ≤ square.file ∧
          square.file < cursor.file + cells.length then
        cells[(square.file - cursor.file).toNat]?
      else
        cursor.filling square := by
  induction cells generalizing cursor with
  | nil =>
      rw [if_neg]
      · rfl
      · simp only [List.length_nil]
        omega
  | cons cell cells ih =>
      rw [List.foldl_cons, ih, filling_put, Cursor.file_put, List.length_cons]
      by_cases on_rank : square.rank = number
      · obtain before | here | after := lt_trichotomy square.file cursor.file
        · rw [if_neg (by omega), if_neg (by omega), if_neg (by omega)]
        · rw [if_neg (by omega), if_pos ⟨on_rank, here⟩, if_pos (by omega), here, Int.sub_self]
          rfl
        · obtain ⟨steps, file_eq⟩ : ∃ steps : Nat, square.file = cursor.file + 1 + steps :=
            ⟨(square.file - cursor.file - 1).toNat, by omega⟩
          have index : (square.file - cursor.file).toNat = steps + 1 := by omega
          have later_index : (square.file - (cursor.file + 1 : Nat)).toNat = steps := by omega
          have beside : ¬ (square.rank = number ∧ square.file = cursor.file) := by omega
          rw [index, later_index, List.getElem?_cons_succ, if_neg beside]
          congr 1
          push_cast
          rw [eq_iff_iff]
          omega
      · simp only [on_rank, false_and, if_false]

/-- The filling after all squares of a rank are filled. -/
def withRank (filling : Filling) (number : Nat) (rank : Rank) : Filling :=
  fun square =>
    if square.rank = number ∧ 1 ≤ square.file ∧ square.file ≤ 8 then
      rank.cells[(square.file - 1).toNat]?
    else
      filling square

/-- Reading a row fills the squares of its rank, or finds the fault of the row. -/
theorem readRow_eq (number : Nat) (row : List Char) (filling : Filling) :
    readRow number row filling = (Rank.ofRow number row).map (filling.withRank number) := by
  rw [readRow, foldlM_read, Rank.ofRow]
  cases Rank.expand row with
  | error letter => rfl
  | ok cells =>
      simp only [Except.map, file_foldl_put, Nat.add_sub_cancel_left]
      split
      · rename_i length_cells
        congr 1
        funext square
        rw [filling_foldl_put, withRank, length_cells]
        congr 1
        rw [eq_iff_iff]
        push_cast
        omega
      · rfl

/-! ## Texts -/

/-- The filling after all squares of some ranks are filled; the last one is the first rank. -/
def withRanks : Filling → List Rank → Filling
  | filling, [] => filling
  | filling, rank :: ranks => withRanks (filling.withRank (ranks.length + 1) rank) ranks

theorem readRows_eq (rows : List (List Char)) (filling : Filling) :
    readRows rows filling = (Placement.ranksOfRows rows).map filling.withRanks := by
  induction rows generalizing filling with
  | nil => rfl
  | cons row rows ih =>
      rw [readRows, readRow_eq, Placement.ranksOfRows]
      cases Rank.ofRow (rows.length + 1) row with
      | error fault => rfl
      | ok rank =>
          rw [Except.map, ok_bind, ok_bind, ih]
          cases later : Placement.ranksOfRows rows with
          | error fault => rfl
          | ok ranks =>
              rw [ok_bind, Except.map]
              simp only [Except.map, pure, Except.pure, withRanks,
                Placement.length_of_ranksOfRows later]

/-- Ranks fill the squares of as many ranks, from the first one up, and no other square. -/
theorem withRanks_apply (filling : Filling) (ranks : List Rank) (square : Square) :
    filling.withRanks ranks square =
      if (1 ≤ square.file ∧ square.file ≤ 8) ∧ 1 ≤ square.rank ∧ square.rank ≤ ranks.length then
        ranks[(ranks.length - square.rank).toNat]?.bind fun rank =>
          rank.cells[(square.file - 1).toNat]?
      else
        filling square := by
  induction ranks generalizing filling with
  | nil =>
      rw [if_neg]
      · rfl
      · simp only [List.length_nil]
        omega
  | cons rank ranks ih =>
      rw [withRanks, ih, withRank, List.length_cons]
      by_cases on_file : 1 ≤ square.file ∧ square.file ≤ 8
      · obtain lower | here | above := lt_trichotomy square.rank (ranks.length + 1 : Nat)
        · by_cases positive : 1 ≤ square.rank
          · obtain ⟨steps, rank_eq⟩ : ∃ steps : Nat, square.rank = ranks.length - steps :=
              ⟨(ranks.length - square.rank).toNat, by omega⟩
            have index : ((ranks.length + 1 : Nat) - square.rank).toNat = steps + 1 := by omega
            have later_index : (ranks.length - square.rank).toNat = steps := by omega
            rw [if_pos (by omega), if_pos (by omega), index, later_index, List.getElem?_cons_succ]
          · rw [if_neg (by omega), if_neg (by omega), if_neg (by omega)]
        · rw [if_neg (by omega), if_pos ⟨here, on_file⟩, if_pos (by omega), here, Int.sub_self]
          rfl
        · rw [if_neg (by omega), if_neg (by omega), if_neg (by omega)]
      · simp only [on_file, false_and, and_false, if_false]

theorem withRanks_of_length {ranks : List Rank} (length_ranks : ranks.length = 8) :
    empty.withRanks ranks = Placement.cell? { ranks, length_ranks } := by
  funext square
  rw [withRanks_apply, length_ranks, Placement.cell?]
  rfl

/-- Filling squares one after the other reads every text as the placement that it describes, and
refuses it for the same fault. -/
theorem ofText_eq (text : String) :
    ofText text = (Placement.ofText text).map Placement.cell? := by
  rw [ofText, Placement.ofText]
  split
  · split
    · rename_i fault described
      rw [readRows_eq, described]
      rfl
    · rename_i ranks described
      rw [readRows_eq]
      calc
        (Placement.ranksOfRows (Text.split '/' text.toList)).map empty.withRanks =
            .ok (empty.withRanks ranks) := by rw [described, Except.map]
        _ = _ := congrArg Except.ok (withRanks_of_length _)
  · rfl

end Filling
end ChessDrawing
