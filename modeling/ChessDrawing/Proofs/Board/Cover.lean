import ChessDrawing.Proofs.Board.Canonical
import ChessDrawing.Proofs.Board.Filling

/-!
# Placements cover the board

The occupied and the empty squares of a placement are the board in reading order, each square in
exactly one of the two lists.  The letters of the occupied squares are the letters of the text that
was read, so that both traversals meet the pieces in the same order.
-/

namespace ChessDrawing

/-! ## The board in reading order -/

namespace Square

/-- The square is read before the other one: on a higher rank, or further left on its rank. -/
def Before (left right : Square) : Prop :=
  right.rank < left.rank ∨ (left.rank = right.rank ∧ left.file < right.file)

instance (left right : Square) : Decidable (Before left right) :=
  inferInstanceAs (Decidable (_ ∨ _))

theorem pairwise_before_all : all.Pairwise Before := by decide

theorem nodup_all : all.Nodup := by decide

theorem count_all (square : Square) : all.count square = if square.OnBoard then 1 else 0 := by
  rw [nodup_all.count]
  simp only [mem_all_iff]

theorem all_eq_flatMap_range :
    all = (List.range 8).flatMap fun index : Nat =>
      (List.range 8).map fun file : Nat => { file := (file + 1 : Nat), rank := 8 - index } := by
  decide

end Square

namespace Placement

open Square

variable {placement : Placement} {square : Square}

/-! ## The two lists -/

theorem isSome_cell?_iff : (placement.cell? square).isSome ↔ square.OnBoard := by
  constructor
  · intro found
    by_contra off_board
    rw [cell?, if_neg off_board] at found
    cases found
  · intro on_board
    obtain ⟨cell, found⟩ := placement.exists_cell_of_onBoard on_board
    rw [found]
    rfl

theorem map_fst_occupied (placement : Placement) :
    placement.occupied.map Prod.fst =
      all.filter fun square => (placement.cell? square).join.isSome := by
  rw [occupied, List.map_filterMap]
  induction all with
  | nil => rfl
  | cons square squares ih =>
      rw [List.filterMap_cons, List.filter_cons]
      cases placement.cell? square with
      | none => simpa using ih
      | some cell => cases cell <;> simpa using ih

theorem mem_occupied_iff {piece : Piece} :
    (square, piece) ∈ placement.occupied ↔ placement.cell? square = some (some piece) := by
  rw [occupied, List.mem_filterMap]
  constructor
  · rintro ⟨other, -, found⟩
    split at found
    · rename_i cell_eq
      obtain ⟨rfl, rfl⟩ := Prod.mk.inj (Option.some.inj found)
      exact cell_eq
    · cases found
  · intro cell_eq
    have on_board : square.OnBoard := by
      rw [← isSome_cell?_iff, cell_eq]
      rfl
    exact ⟨square, mem_all_iff.mpr on_board, by rw [cell_eq]⟩

theorem mem_emptySquares_iff :
    square ∈ placement.emptySquares ↔ placement.cell? square = some none := by
  rw [emptySquares, List.mem_filter, beq_iff_eq, and_iff_right_iff_imp]
  intro empty
  rw [mem_all_iff, ← isSome_cell?_iff, empty]
  rfl

/-- The occupied and the empty squares together are the board. -/
theorem occupied_append_emptySquares_perm (placement : Placement) :
    (placement.occupied.map Prod.fst ++ placement.emptySquares).Perm all := by
  have empty_eq : placement.emptySquares =
      all.filter fun square => !(placement.cell? square).join.isSome := by
    rw [emptySquares]
    apply List.filter_congr
    intro square square_mem
    obtain ⟨cell, found⟩ := placement.exists_cell_of_onBoard (mem_all_iff.mp square_mem)
    rw [found]
    cases cell <;> rfl
  rw [map_fst_occupied, empty_eq]
  exact List.filter_append_perm _ _

/-! ## Letters -/

/-- Indexing a list at all its positions gives its items. -/
theorem map_getElem?_range {Item : Type} (items : List Item) :
    (List.range items.length).map (items[·]?) = items.map some :=
  List.ext_getElem (by simp) (by simp)

/-- The cells of the board in reading order are the cells of the ranks. -/
theorem map_cell?_all (placement : Placement) :
    all.map placement.cell? = (placement.ranks.flatMap Rank.cells).map some := by
  have row (rank : Rank) : (List.range 8).map (fun file => rank.cells[file]?) =
      rank.cells.map some := by
    rw [← rank.length_cells, map_getElem?_range]
  calc
    all.map placement.cell? =
        (List.range 8).flatMap fun index =>
          (List.range 8).map fun file =>
            placement.ranks[index]?.bind fun rank => rank.cells[file]? := by
      rw [all_eq_flatMap_range, List.map_flatMap]
      apply List.flatMap_congr
      intro index index_mem
      rw [List.map_map, List.map_inj_left]
      intro file file_mem
      rw [List.mem_range] at index_mem file_mem
      exact cell?_eq_getElem? placement index_mem (Nat.le_add_left 1 file) file_mem
    _ = (placement.ranks.map some).flatMap fun found : Option Rank =>
          (List.range 8).map fun file => found.bind fun rank => rank.cells[file]? := by
      rw [← map_getElem?_range, placement.length_ranks, List.flatMap_map]
    _ = (placement.ranks.flatMap Rank.cells).map some := by
      rw [List.flatMap_map, List.map_flatMap]
      exact congrArg (List.flatMap · placement.ranks) (funext row)

/-- The letters of the pieces on some cells. -/
def letters (cells : List (Option Piece)) : List Char :=
  cells.filterMap (Option.map Piece.letter)

theorem map_letter_occupied (placement : Placement) :
    placement.occupied.map (fun occupied => occupied.2.letter) =
      letters (placement.ranks.flatMap Rank.cells) := by
  calc
    placement.occupied.map (fun occupied => occupied.2.letter) =
        (all.map placement.cell?).filterMap fun cell => cell.join.map Piece.letter := by
      rw [occupied, List.map_filterMap, List.filterMap_map]
      congr 1
      funext square
      rw [Function.comp_apply]
      cases placement.cell? square with
      | none => rfl
      | some cell => cases cell <;> rfl
    _ = letters (placement.ranks.flatMap Rank.cells) := by
      rw [map_cell?_all, List.filterMap_map]
      rfl

theorem letters_append (left right : List (Option Piece)) :
    letters (left ++ right) = letters left ++ letters right :=
  List.filterMap_append

/-- The letters of a row are the letters of the pieces that it describes. -/
theorem letters_of_expand {row : List Char} {cells : List (Option Piece)}
    (read : Rank.expand row = .ok cells) :
    letters cells = row.filter (· ∈ Rank.letters) := by
  induction row generalizing cells with
  | nil =>
      cases read
      rfl
  | cons symbol row ih =>
      obtain ⟨block, later, described, read_later, rfl⟩ := Rank.expand_cons_eq_ok_iff.mp read
      rw [letters_append, ih read_later]
      rcases Rank.cases_of_block? described with ⟨digit, rfl⟩ | ⟨piece, written, rfl⟩
      · have no_letter : symbol ∉ Rank.letters := by
          intro letter
          obtain ⟨piece, written⟩ := Rank.mem_letters_iff.mp letter
          exact Rank.not_digit_of_writtenAs written digit
        simp [letters, no_letter]
      · have letter : symbol ∈ Rank.letters := Rank.mem_letters_iff.mpr ⟨piece, written⟩
        rw [Piece.eq_letter_of_writtenAs written] at letter ⊢
        simp [letters, letter]

/-- The slashes between rows are no letters. -/
theorem filter_letters_intercalate (rows : List (List Char)) :
    (['/'].intercalate rows).filter (· ∈ Rank.letters) =
      rows.flatMap (List.filter (· ∈ Rank.letters)) := by
  induction rows with
  | nil => rfl
  | cons row rows ih =>
      cases rows with
      | nil => simp
      | cons next rows =>
          have slash : '/' ∉ Rank.letters := (not_or.mp Rank.slash_not_symbol).2
          rw [List.intercalate_cons_cons, List.filter_append, List.filter_append, ih,
            List.flatMap_cons, List.filter_singleton]
          simp [slash]

theorem letters_of_rows {rows : List (List Char)} {ranks : List Rank}
    (described : List.Forall₂ (fun row rank => Rank.expand row = .ok rank.cells) rows ranks) :
    letters (ranks.flatMap Rank.cells) = rows.flatMap (List.filter (· ∈ Rank.letters)) := by
  induction described with
  | nil => rfl
  | cons read _ ih =>
      rw [List.flatMap_cons, List.flatMap_cons, letters_append, letters_of_expand read, ih]

/-- The occupied squares have the letters of the text, in the order of the text. -/
theorem letters_of_ofText {text : String} (read : ofText text = .ok placement) :
    placement.occupied.map (fun occupied => occupied.2.letter) =
      text.toList.filter (· ∈ Rank.letters) := by
  rw [map_letter_occupied, letters_of_rows (ofText_eq_ok_iff.mp read),
    ← filter_letters_intercalate, intercalate_rows]

/-! ## Reading by filling -/

theorem cell_filling_eq_ok_iff {cell : Option Piece} :
    Filling.cell placement.cell? square = .ok cell ↔ placement.cell? square = some cell := by
  rw [Filling.cell]
  cases placement.cell? square <;> simp

/-- A filled board answers for the squares of the board, and for no other square. -/
theorem cell_filling_onBoard (placement : Placement) (square : Square) :
    ((∃ cell, Filling.cell placement.cell? square = .ok cell) ↔ square.OnBoard) ∧
      (Filling.cell placement.cell? square = .error square ↔ ¬ square.OnBoard) := by
  rw [← placement.isSome_cell?_iff, Filling.cell]
  cases placement.cell? square <;> simp

theorem cells_filling (placement : Placement) :
    Filling.cells placement.cell? =
      .ok (all.map fun square => (square, (placement.cell? square).join)) := by
  rw [Filling.cells, mapM_eq_ok_iff, List.forall₂_map_right_iff, List.forall₂_same]
  intro square square_mem
  obtain ⟨cell, found⟩ := placement.exists_cell_of_onBoard (mem_all_iff.mp square_mem)
  rw [Filling.cell, found]
  rfl

theorem occupied_filling (placement : Placement) :
    Filling.occupied placement.cell? = .ok placement.occupied := by
  rw [Filling.occupied, cells_filling, ok_bind, List.filterMap_map, occupied]
  congr 2
  funext square
  rw [Function.comp_apply]
  cases placement.cell? square with
  | none => rfl
  | some cell => cases cell <;> rfl

theorem emptySquares_filling (placement : Placement) :
    Filling.emptySquares placement.cell? = .ok placement.emptySquares := by
  rw [Filling.emptySquares, cells_filling, ok_bind, List.filter_map, List.map_map, emptySquares]
  refine congrArg Except.ok ((List.map_id _).trans (List.filter_congr ?_))
  intro square square_mem
  obtain ⟨cell, found⟩ := placement.exists_cell_of_onBoard (mem_all_iff.mp square_mem)
  rw [Function.comp_apply, found]
  cases cell <;> rfl

/-- A placement that was read covers the board.  Filling squares one after the other gives exactly
the cells of the placement: a square has one if it is on the board, and is at fault otherwise, so
that listing the occupied and the empty squares never fails.  Both lists are in reading order and
have each square of the board exactly once between them, and the letters of the occupied squares are
the letters of the text in their order. -/
theorem ofText_covers_board {text : String} {placement : Placement}
    (read : ofText text = .ok placement) :
    let filling : Filling := placement.cell?
    Filling.ofText text = .ok filling ∧
      (∀ square, ((∃ cell, filling.cell square = .ok cell) ↔ square.OnBoard) ∧
        (filling.cell square = .error square ↔ ¬ square.OnBoard)) ∧
      filling.occupied = .ok placement.occupied ∧
      filling.emptySquares = .ok placement.emptySquares ∧
      (∀ square piece, (square, piece) ∈ placement.occupied ↔
        filling.cell square = .ok (some piece)) ∧
      (∀ square, square ∈ placement.emptySquares ↔ filling.cell square = .ok none) ∧
      (placement.occupied.map Prod.fst).Pairwise Before ∧
      placement.emptySquares.Pairwise Before ∧
      (∀ square : Square,
        (placement.occupied.map Prod.fst ++ placement.emptySquares).count square =
          if square.OnBoard then 1 else 0) ∧
      placement.occupied.map (fun occupied => occupied.2.letter) =
        text.toList.filter (· ∈ Rank.letters) := by
  intro filling
  refine ⟨?_, cell_filling_onBoard placement, occupied_filling placement,
    emptySquares_filling placement, ?_, ?_, ?_, ?_, ?_, letters_of_ofText read⟩
  · rw [Filling.ofText_eq, read]
    rfl
  · intro square piece
    rw [mem_occupied_iff, cell_filling_eq_ok_iff]
  · intro square
    rw [mem_emptySquares_iff, cell_filling_eq_ok_iff]
  · rw [map_fst_occupied]
    exact pairwise_before_all.filter _
  · exact pairwise_before_all.filter _
  · intro square
    rw [placement.occupied_append_emptySquares_perm.count_eq, count_all]

/-- Zeros and split runs of digits move no piece past another one, and no text fills a ninth file. -/
theorem occupied_of_split_runs :
    ∃ placement, ofText "0r3k02r/44/8/8/0P070/8/8/K7" = .ok placement ∧
      placement.occupied.map (fun occupied => occupied.2.letter) = ['r', 'k', 'r', 'P', 'K'] ∧
      (∃ filling : Filling, Filling.ofText "0r3k02r/44/8/8/0P070/8/8/K7" = .ok filling ∧
        filling.occupied = .ok placement.occupied ∧
          filling.cell { file := 9, rank := 8 } = .error { file := 9, rank := 8 }) := by
  obtain ⟨placement, read⟩ := exists_ofText_iff.mpr
    (by decide : InGrammar "0r3k02r/44/8/8/0P070/8/8/K7")
  obtain ⟨filled, answers, occupied, -, -, -, -, -, -, letters⟩ := ofText_covers_board read
  refine ⟨placement, read, ?_, _, filled, occupied, (answers _).2.mpr (by decide)⟩
  rw [letters]
  decide

end Placement
end ChessDrawing
