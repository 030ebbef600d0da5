import ChessDrawing.Proofs.Board.Grammar

/-!
# Canonical texts of placements

Writing a placement and reading the text gives the placement back, and every assignment of cells to
the squares is one placement.  Reading a text and writing the placement condenses the text: each
maximal run of digits becomes the decimal of its sum, or nothing if the sum is zero.
-/

namespace ChessDrawing
namespace Rank

/-! ## Condensing runs of digits -/

/-- Whether two neighbours belong to one run of digits. -/
def sameRun (left right : Char) : Bool :=
  left ∈ digits ∧ right ∈ digits

/-- A run of digits as the decimal of its sum, and nothing if the sum is zero. -/
def condensed (group : List Char) : List Char :=
  if group.all (· ∈ digits) then
    if rowWeight group = 0 then [] else Nat.toDigits 10 (rowWeight group)
  else
    group

/-- A text with each of its maximal runs of digits condensed. -/
def condense (text : List Char) : List Char :=
  (text.splitBy sameRun).flatMap condensed

/-- A text condensed from left to right, with the sum of the run of digits that is still open. -/
def condenseAfter : Nat → List Char → List Char
  | pending, [] => run pending
  | pending, symbol :: rest =>
      if symbol ∈ digits then
        condenseAfter (pending + weight symbol) rest
      else
        run pending ++ symbol :: condenseAfter 0 rest

theorem rowWeight_append (left right : List Char) :
    rowWeight (left ++ right) = rowWeight left + rowWeight right := by
  simp [rowWeight]

theorem splitBy_digits {group : List Char} (nonempty : group ≠ [])
    (only_digits : ∀ symbol ∈ group, symbol ∈ digits) : group.splitBy sameRun = [group] := by
  apply List.splitBy_of_isChain nonempty
  apply List.Pairwise.isChain
  apply List.pairwise_of_forall_mem_list
  intro left left_mem right right_mem
  simp [sameRun, only_digits left left_mem, only_digits right right_mem]

/-- A run of digits that the rest does not continue is condensed on its own. -/
theorem condense_digits_append {group rest : List Char}
    (only_digits : ∀ symbol ∈ group, symbol ∈ digits)
    (maximal : ∀ symbol ∈ rest.head?, symbol ∉ digits) :
    condense (group ++ rest) = run (rowWeight group) ++ condense rest := by
  rcases eq_or_ne group [] with rfl | nonempty
  · simp [run]
  · have apart : (group ++ rest).splitBy sameRun =
        group.splitBy sameRun ++ rest.splitBy sameRun := by
      apply List.splitBy_append
      intro last _ first first_mem
      simp [sameRun, maximal first first_mem]
    have all_digits : group.all (· ∈ digits) = true := by simpa using only_digits
    simp only [condense, apart, splitBy_digits nonempty only_digits, List.flatMap_append,
      List.flatMap_singleton, condensed, if_pos all_digits, run, Text.natural]

theorem condense_cons_of_not_digit {symbol : Char} (no_digit : symbol ∉ digits)
    (rest : List Char) : condense (symbol :: rest) = symbol :: condense rest := by
  have apart : ([symbol] ++ rest).splitBy sameRun = [symbol] :: rest.splitBy sameRun := by
    apply List.splitBy_append
    intro last last_mem first _
    obtain rfl : symbol = last := by simpa using last_mem
    simp [sameRun, no_digit]
  rw [List.singleton_append] at apart
  simp [condense, apart, condensed, no_digit]

/-- The run of digits in front of a text is the one still open. -/
theorem condense_append_eq_condenseAfter (group text : List Char)
    (only_digits : ∀ symbol ∈ group, symbol ∈ digits) :
    condense (group ++ text) = condenseAfter (rowWeight group) text := by
  induction text generalizing group with
  | nil =>
      have alone : condense (group ++ []) = run (rowWeight group) ++ condense [] :=
        condense_digits_append only_digits (by simp)
      rw [alone]
      simp [condense, condenseAfter]
  | cons symbol text ih =>
      by_cases digit : symbol ∈ digits
      · have more_digits : ∀ next ∈ group ++ [symbol], next ∈ digits := by
          simpa [or_imp, forall_and] using ⟨only_digits, digit⟩
        have longer := ih (group ++ [symbol]) more_digits
        simpa [condenseAfter, digit, rowWeight_append] using longer
      · have later := ih [] (by simp)
        rw [List.nil_append, rowWeight_nil] at later
        rw [condense_digits_append only_digits (by simpa using digit),
          condense_cons_of_not_digit digit, later]
        simp [condenseAfter, digit]

theorem condense_eq_condenseAfter (text : List Char) : condense text = condenseAfter 0 text :=
  condense_append_eq_condenseAfter [] text (by simp)

theorem slash_not_symbol : ¬ ('/' ∈ digits ∨ '/' ∈ letters) := by decide

/-- A slash ends every run of digits. -/
theorem condenseAfter_append_slash (pending : Nat) (row rest : List Char) :
    condenseAfter pending (row ++ '/' :: rest) =
      condenseAfter pending row ++ '/' :: condenseAfter 0 rest := by
  induction row generalizing pending with
  | nil => simp [condenseAfter, (not_or.mp slash_not_symbol).1]
  | cons symbol row ih =>
      by_cases digit : symbol ∈ digits
      · simp [condenseAfter, digit, ih]
      · simp [condenseAfter, digit, ih]

theorem condense_intercalate (rows : List (List Char)) :
    condense (['/'].intercalate rows) = ['/'].intercalate (rows.map condense) := by
  rw [funext condense_eq_condenseAfter]
  induction rows with
  | nil => simp [condenseAfter, run]
  | cons row rows ih =>
      cases rows with
      | nil => simp
      | cons next rows =>
          simp only [List.intercalate_cons_cons, List.map_cons, List.append_assoc,
            List.singleton_append, condenseAfter_append_slash] at ih ⊢
          rw [ih]

/-! ## Writing after reading -/

theorem rowAfter_replicate (empty count : Nat) (cells : List (Option Piece)) :
    rowAfter empty (List.replicate count none ++ cells) = rowAfter (empty + count) cells := by
  induction count generalizing empty with
  | zero => rfl
  | succ count ih =>
      rw [List.replicate_succ, List.cons_append, rowAfter, ih]
      congr 1
      omega

/-- Writing what a row describes condenses the row, whatever run is still open before it. -/
theorem rowAfter_of_expand {row : List Char} {cells : List (Option Piece)}
    (read : expand row = .ok cells) (empty : Nat) :
    rowAfter empty cells = condenseAfter empty row := by
  induction row generalizing cells empty with
  | nil =>
      cases read
      rfl
  | cons symbol row ih =>
      obtain ⟨block, later, described, read_later, rfl⟩ := expand_cons_eq_ok_iff.mp read
      rcases cases_of_block? described with ⟨digit, rfl⟩ | ⟨piece, written, rfl⟩
      · rw [rowAfter_replicate, ih read_later, condenseAfter, if_pos digit]
      · rw [List.singleton_append, rowAfter, ih read_later, condenseAfter,
          if_neg (not_digit_of_writtenAs written), Piece.eq_letter_of_writtenAs written]

/-! ## Reading after writing -/

theorem expand_append {left right : List Char} {before after : List (Option Piece)}
    (read_left : expand left = .ok before) (read_right : expand right = .ok after) :
    expand (left ++ right) = .ok (before ++ after) := by
  induction left generalizing before with
  | nil =>
      cases read_left
      exact read_right
  | cons symbol left ih =>
      obtain ⟨block, later, described, read_later, rfl⟩ := expand_cons_eq_ok_iff.mp read_left
      rw [List.cons_append, expand_cons_eq_ok_iff]
      exact ⟨block, later ++ after, described, ih read_later, List.append_assoc _ _ _⟩

theorem expand_run {empty : Nat} (one_digit : empty < 10) :
    expand (run empty) = .ok (List.replicate empty none) := by
  interval_cases empty <;> rfl

/-- A row of at most eight squares is read back, the open run before it included. -/
theorem expand_rowAfter (empty : Nat) (cells : List (Option Piece))
    (fits : empty + cells.length < 10) :
    expand (rowAfter empty cells) = .ok (List.replicate empty none ++ cells) := by
  induction cells generalizing empty with
  | nil => simpa [rowAfter] using expand_run fits
  | cons cell cells ih =>
      rw [List.length_cons] at fits
      cases cell with
      | none =>
          rw [rowAfter, ih (empty + 1) (by omega), List.replicate_succ', List.append_assoc,
            List.singleton_append]
      | some piece =>
          have tail : expand (piece.letter :: rowAfter 0 cells) = .ok ([some piece] ++ cells) := by
            apply expand_cons_eq_ok_iff.mpr
            exact ⟨[some piece], cells, block?_of_writtenAs piece.writtenAs_letter,
              ih 0 (by omega), rfl⟩
          rw [rowAfter]
          exact expand_append (expand_run (by omega)) tail

theorem expand_row (rank : Rank) : expand rank.row = .ok rank.cells :=
  expand_rowAfter 0 rank.cells (by rw [rank.length_cells]; decide)

theorem slash_not_mem_row (rank : Rank) : '/' ∉ rank.row := by
  intro slash
  exact slash_not_symbol (exists_expand_iff.mp ⟨_, rank.expand_row⟩ '/' slash)

theorem eq_of_cells_eq {left right : Rank} (same : left.cells = right.cells) : left = right := by
  obtain ⟨cells, length_cells⟩ := left
  obtain ⟨cells', length_cells'⟩ := right
  rw [mk.injEq]
  exact same

/-! ## Texts that stay as they are -/

/-- A text without zeros and without neighbouring digits. -/
def Condensed (text : List Char) : Prop :=
  '0' ∉ text ∧ text.IsChain fun left right => ¬ (left ∈ digits ∧ right ∈ digits)

theorem run_weight {symbol : Char} (digit : symbol ∈ digits) :
    run (weight symbol) = if symbol = '0' then [] else [symbol] := by
  have each : digits.all fun symbol =>
      run (weight symbol) = if symbol = '0' then [] else [symbol] := by decide
  exact of_decide_eq_true (List.all_eq_true.mp each symbol digit)

theorem length_run {empty : Nat} (one_digit : empty < 10) :
    (run empty).length = if empty = 0 then 0 else 1 := by
  interval_cases empty <;> rfl

/-- Condensing makes no text longer as long as every sum has one digit. -/
theorem length_condenseAfter_le {pending : Nat} {row : List Char}
    (light : pending + rowWeight row < 10) :
    (condenseAfter pending row).length ≤ (if pending = 0 then 0 else 1) + row.length := by
  induction row generalizing pending with
  | nil =>
      rw [condenseAfter, length_run (by simpa using light)]
      simp
  | cons symbol row ih =>
      rw [rowWeight_cons] at light
      by_cases digit : symbol ∈ digits
      · have shorter := @ih (pending + weight symbol) (by omega)
        rw [condenseAfter, if_pos digit, List.length_cons]
        split at shorter <;> split <;> omega
      · have shorter := @ih 0 (by omega)
        rw [if_pos rfl] at shorter
        rw [condenseAfter, if_neg digit, List.length_append, List.length_cons, List.length_cons,
          length_run (by omega)]
        omega

/-- A run of digits ends where the rest starts with none. -/
theorem condenseAfter_of_head {row : List Char} (pending : Nat)
    (ended : ∀ symbol ∈ row.head?, symbol ∉ digits) :
    condenseAfter pending row = run pending ++ condenseAfter 0 row := by
  cases row with
  | nil => simp [condenseAfter, run]
  | cons symbol row =>
      have digit : symbol ∉ digits := ended symbol rfl
      simp [condenseAfter, digit, run]

/-- A zero is left out, so that the row gets shorter. -/
theorem condenseAfter_zero_ne {row : List Char} (light : rowWeight row < 10) :
    condenseAfter 0 ('0' :: row) ≠ '0' :: row := by
  have zero_digit : '0' ∈ digits := by decide
  have weightless : weight '0' = 0 := rfl
  intro equal
  have shorter : (condenseAfter 0 row).length ≤ 0 + row.length :=
    length_condenseAfter_le (by omega)
  rw [condenseAfter, if_pos zero_digit, weightless] at equal
  rw [equal, List.length_cons] at shorter
  omega

/-- Two neighbouring digits become one character at most. -/
theorem condenseAfter_digits_ne {first next : Char} {row : List Char} (first_digit : first ∈ digits)
    (next_digit : next ∈ digits) (light : weight first + (weight next + rowWeight row) < 10) :
    condenseAfter 0 (first :: next :: row) ≠ first :: next :: row := by
  intro equal
  have shorter : (condenseAfter (weight first + weight next) row).length ≤ _ :=
    length_condenseAfter_le (by omega)
  rw [condenseAfter, if_pos first_digit, Nat.zero_add, condenseAfter, if_pos next_digit] at equal
  rw [equal, List.length_cons, List.length_cons] at shorter
  split at shorter <;> omega

theorem condensed_cons_iff {symbol : Char} {row : List Char} :
    Condensed (symbol :: row) ↔
      symbol ≠ '0' ∧ (symbol ∈ digits → ∀ next ∈ row.head?, next ∉ digits) ∧ Condensed row := by
  simp only [Condensed, List.mem_cons, not_or, List.isChain_cons, not_and, ne_eq,
    @eq_comm _ '0' symbol]
  tauto

/-- A row whose sums have one digit stays as it is exactly if it is condensed. -/
theorem condense_eq_self_iff {row : List Char} (light : rowWeight row < 10) :
    condense row = row ↔ Condensed row := by
  rw [condense_eq_condenseAfter]
  induction row with
  | nil => simp [condenseAfter, run, Condensed]
  | cons symbol row ih =>
      rw [rowWeight_cons] at light
      have unchanged := ih (by omega)
      rw [condensed_cons_iff, ← unchanged]
      by_cases digit : symbol ∈ digits
      · by_cases zero : symbol = '0'
        · subst zero
          exact iff_of_false (condenseAfter_zero_ne (by omega)) fun condensed => condensed.1 rfl
        · by_cases ended : ∀ next ∈ row.head?, next ∉ digits
          · rw [condenseAfter, if_pos digit, Nat.zero_add, condenseAfter_of_head _ ended,
              run_weight digit, if_neg zero, List.singleton_append, List.cons_inj_right]
            rw [and_iff_right zero, and_iff_right fun _ => ended]
          · refine iff_of_false ?_ fun condensed => ended (condensed.2.1 digit)
            push Not at ended
            obtain ⟨next, head, next_digit⟩ := ended
            obtain ⟨rest, rfl⟩ := List.head?_eq_some_iff.mp head
            rw [rowWeight_cons] at light
            exact condenseAfter_digits_ne digit next_digit light
      · have not_zero : symbol ≠ '0' := by
          rintro rfl
          exact digit (by decide)
        simp [condenseAfter, digit, not_zero, run]

/-- A slash touches no run of digits. -/
theorem condensed_append_slash_iff {row rest : List Char} :
    Condensed (row ++ '/' :: rest) ↔ Condensed row ∧ Condensed rest := by
  have slash : '/' ∉ digits := (not_or.mp slash_not_symbol).1
  simp [Condensed, List.isChain_append, List.isChain_cons, slash]
  tauto

theorem condensed_intercalate_iff {rows : List (List Char)} :
    Condensed (['/'].intercalate rows) ↔ ∀ row ∈ rows, Condensed row := by
  induction rows with
  | nil => simp [Condensed]
  | cons row rows ih =>
      cases rows with
      | nil => simp
      | cons next rows =>
          rw [List.intercalate_cons_cons, List.append_assoc, List.singleton_append,
            condensed_append_slash_iff, ih, ← List.forall_mem_cons]

end Rank

namespace Placement

theorem rows_text (placement : Placement) : rows placement.text = placement.ranks.map Rank.row := by
  have some_rank : placement.ranks ≠ [] := by
    intro none
    simpa [none] using placement.length_ranks
  rw [rows, text, String.toList_ofList, List.splitOn_intercalate]
  · simpa [List.mem_map] using fun rank _ => rank.slash_not_mem_row
  · simpa using some_rank

/-- Reading the text of a placement gives the placement back. -/
theorem ofText_text (placement : Placement) : ofText placement.text = .ok placement := by
  rw [ofText_eq_ok_iff, rows_text, List.forall₂_map_left_iff, List.forall₂_same]
  exact fun rank _ => rank.expand_row

/-- Each row of the written text is the condensed row that was read. -/
theorem map_row_of_ofText {text : String} {placement : Placement}
    (read : ofText text = .ok placement) :
    placement.ranks.map Rank.row = (rows text).map Rank.condense := by
  rw [← List.forall₂_eq_eq_eq, List.forall₂_map_left_iff, List.forall₂_map_right_iff]
  apply List.Forall₂.flip
  apply (ofText_eq_ok_iff.mp read).imp
  intro row rank row_read
  rw [flip, Rank.row, Rank.rowAfter_of_expand row_read, Rank.condense_eq_condenseAfter]

theorem intercalate_rows (text : String) : ['/'].intercalate (rows text) = text.toList :=
  List.intercalate_splitOn '/'

/-- Writing the placement of a text condenses the text. -/
theorem text_of_ofText {text : String} {placement : Placement}
    (read : ofText text = .ok placement) :
    placement.text = String.ofList (Rank.condense text.toList) := by
  rw [Placement.text, map_row_of_ofText read, ← Rank.condense_intercalate, intercalate_rows]

/-- Only a text without zeros and without neighbouring digits is written as it was read. -/
theorem text_eq_self_iff {text : String} {placement : Placement}
    (read : ofText text = .ok placement) :
    placement.text = text ↔ Rank.Condensed text.toList := by
  have grammar := exists_ofText_iff.mp ⟨placement, read⟩
  have light (row : List Char) (mem : row ∈ rows text) : Rank.rowWeight row < 10 := by
    rw [grammar.eight_squares row mem]
    decide
  calc
    placement.text = text ↔ rows placement.text = rows text := by
      constructor
      · exact congrArg rows
      · intro same_rows
        rw [← String.toList_inj, ← intercalate_rows, same_rows, intercalate_rows]
    _ ↔ (rows text).map Rank.condense = (rows text).map id := by
      rw [rows_text, map_row_of_ofText read, List.map_id]
    _ ↔ ∀ row ∈ rows text, Rank.Condensed row := by
      rw [List.map_inj_left]
      exact forall₂_congr fun row mem => Rank.condense_eq_self_iff (light row mem)
    _ ↔ Rank.Condensed text.toList := by
      rw [← Rank.condensed_intercalate_iff, intercalate_rows]

theorem eq_iff_text_eq {left right : Placement} : left = right ↔ left.text = right.text := by
  constructor
  · exact congrArg text
  · intro same_text
    have same_reading := ofText_text left
    rw [same_text, ofText_text right] at same_reading
    exact (Except.ok.inj same_reading).symm

/-! ## Placements as assignments -/

/-- The placement with a given cell on each square. -/
def ofAssignment (assignment : Square → Option Piece) : Placement where
  ranks := (List.range 8).map fun index : Nat =>
    { cells := (List.range 8).map fun file : Nat =>
        assignment { file := file + 1, rank := 8 - index }
      length_cells := by simp }
  length_ranks := by simp

/-- A square of the board lies on one of eight rows and one of eight files. -/
theorem exists_index_of_onBoard {square : Square} (on_board : square.OnBoard) :
    ∃ index file : Nat, index < 8 ∧ file < 8 ∧
      square = { file := (file + 1 : Nat), rank := 8 - index } := by
  obtain ⟨file, rank⟩ := square
  obtain ⟨file_range, rank_range⟩ := on_board
  simp only at file_range rank_range
  refine ⟨(8 - rank).toNat, (file - 1).toNat, by omega, by omega, ?_⟩
  rw [Square.mk.injEq]
  omega

theorem exists_cell_of_onBoard (placement : Placement) {square : Square}
    (on_board : square.OnBoard) : ∃ cell, placement.cell? square = some cell := by
  obtain ⟨index, file, index_lt, file_lt, rfl⟩ := exists_index_of_onBoard on_board
  exact placement.exists_cell? index_lt (Nat.le_add_left 1 file) file_lt

theorem cell?_ofAssignment (assignment : Square → Option Piece) {square : Square}
    (on_board : square.OnBoard) :
    (ofAssignment assignment).cell? square = some (assignment square) := by
  obtain ⟨index, file, index_lt, file_lt, rfl⟩ := exists_index_of_onBoard on_board
  rw [cell?_eq_getElem? _ index_lt (by omega) (by omega)]
  simp [ofAssignment, index_lt, file_lt]

/-- Two placements with the same cells are equal. -/
theorem eq_of_cell?_eq {left right : Placement}
    (same : ∀ square : Square, square.OnBoard → left.cell? square = right.cell? square) :
    left = right := by
  have same_cell {index file : Nat} (index_lt : index < 8) (file_lt : file < 8) :
      (left.ranks[index]?.bind fun rank => rank.cells[file]?) =
        right.ranks[index]?.bind fun rank => rank.cells[file]? := by
    have on_board : Square.OnBoard { file := (file + 1 : Nat), rank := 8 - index } := by
      simp only [Square.OnBoard]
      omega
    have cells := same _ on_board
    rwa [cell?_eq_getElem? left index_lt (by omega) (by omega),
      cell?_eq_getElem? right index_lt (by omega) (by omega), Nat.add_sub_cancel] at cells
  obtain ⟨left, length_left⟩ := left
  obtain ⟨right, length_right⟩ := right
  rw [mk.injEq]
  apply List.ext_getElem (length_left.trans length_right.symm)
  intro index left_lt right_lt
  have lengths : left[index].cells.length = right[index].cells.length :=
    left[index].length_cells.trans right[index].length_cells.symm
  apply Rank.eq_of_cells_eq
  apply List.ext_getElem lengths
  intro file file_left file_right
  have file_lt : file < 8 := left[index].length_cells ▸ file_left
  have cells := same_cell (length_left ▸ left_lt) file_lt
  simpa [List.getElem?_eq_getElem, left_lt, right_lt, file_left, file_right] using cells

/-- Every assignment of a piece or nothing to the squares is exactly one placement. -/
theorem existsUnique_assignment (assignment : Square → Option Piece) :
    ∃! placement : Placement, ∀ square : Square, square.OnBoard →
      placement.cell? square = some (assignment square) := by
  refine ⟨ofAssignment assignment, fun square => cell?_ofAssignment assignment, ?_⟩
  intro other assigned
  apply eq_of_cell?_eq
  intro square on_board
  rw [assigned square on_board, cell?_ofAssignment assignment on_board]

/-- Writing and reading are inverse up to condensing: every assignment of cells is a placement that
is read back from its text, the text of a placement is the condensed text it was read from, so that
condensed texts decide equality, and exactly the texts without zeros and neighbouring digits stay as
they are. -/
theorem text_inverse_ofText :
    (∀ assignment : Square → Option Piece, ∃! placement : Placement,
      ∀ square : Square, square.OnBoard → placement.cell? square = some (assignment square)) ∧
    (∀ placement : Placement, ofText placement.text = .ok placement) ∧
    (∀ (source : String) (placement : Placement), ofText source = .ok placement →
      placement.text.toList = Rank.condense source.toList ∧
      (placement.text = source ↔
        '0' ∉ source.toList ∧ source.toList.IsChain fun left right =>
          ¬ (left ∈ Rank.digits ∧ right ∈ Rank.digits))) ∧
    ∀ (source other : String) (placement second : Placement), ofText source = .ok placement →
      ofText other = .ok second →
        (placement = second ↔ Rank.condense source.toList = Rank.condense other.toList) := by
  refine ⟨existsUnique_assignment, ofText_text, ?_, ?_⟩
  · intro source placement read
    exact ⟨by rw [text_of_ofText read, String.toList_ofList], text_eq_self_iff read⟩
  · intro source other placement second read read_other
    rw [eq_iff_text_eq, text_of_ofText read, text_of_ofText read_other, String.ofList_inj]

/-- A row with a zero and a split run is written with one digit. -/
theorem text_of_split_run :
    ∃ placement, ofText "8/44/8/r3k2r/404/8/8/K7" = .ok placement ∧
      placement.text = "8/8/8/r3k2r/8/8/8/K7" ∧
      placement.text ≠ "8/44/8/r3k2r/404/8/8/K7" := by
  obtain ⟨-, -, written, -⟩ := text_inverse_ofText
  obtain ⟨placement, read⟩ : ∃ placement, ofText "8/44/8/r3k2r/404/8/8/K7" = .ok placement :=
    exists_ofText_iff.mpr (by decide)
  obtain ⟨condensed, unchanged⟩ := written _ placement read
  refine ⟨placement, read, ?_, ?_⟩
  · rw [← String.toList_inj, condensed]
    decide
  · rw [ne_eq, unchanged]
    decide

end Placement
end ChessDrawing
