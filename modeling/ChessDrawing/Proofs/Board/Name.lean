import ChessDrawing.Board.Square
import ChessDrawing.Proofs.Outcome

/-!
# Names of squares

The name of a square of the board is the letter of its file and the digit of its rank.  Reading
accepts exactly these names, naming gives the name back that was read, and different squares have
different names.
-/

namespace ChessDrawing
namespace Square

/-- The letters of the files. -/
def fileLetters : List Char :=
  ['a', 'b', 'c', 'd', 'e', 'f', 'g', 'h']

/-- The digits of the ranks. -/
def rankDigits : List Char :=
  ['1', '2', '3', '4', '5', '6', '7', '8']

/-- The text is the letter of a file followed by the digit of a rank. -/
def IsName (text : String) : Prop :=
  ∃ letter ∈ fileLetters, ∃ digit ∈ rankDigits, text.toList = [letter, digit]

instance (text : String) : Decidable (IsName text) :=
  decidable_of_iff
    (fileLetters.any fun letter => rankDigits.any fun digit => text.toList = [letter, digit])
    (by simp [IsName])

/-- The name of a square of the board. -/
def boardName (square : Square) : String :=
  String.ofList [Char.ofNat (square.file.toNat + 96), Char.ofNat (square.rank.toNat + 48)]

/-! ## The board -/

/-- The board in reading order lists exactly its squares. -/
theorem mem_all_iff {square : Square} : square ∈ all ↔ square.OnBoard := by
  obtain ⟨file, rank⟩ := square
  simp only [all, OnBoard, List.mem_flatMap, List.mem_map, Square.mk.injEq]
  constructor
  · rintro ⟨_, rank_mem, _, file_mem, rfl, rfl⟩
    simp at rank_mem file_mem
    omega
  · rintro ⟨file_bounds, rank_bounds⟩
    refine ⟨rank, ?_, file, ?_, rfl, rfl⟩
    · simp
      omega
    · simp
      omega

/-! ## Reading names -/

theorem mem_fileLetters_iff {letter : Char} :
    letter ∈ fileLetters ↔ 'a' ≤ letter ∧ letter ≤ 'h' := by
  constructor
  · intro mem
    have each : fileLetters.all fun letter => decide ('a' ≤ letter ∧ letter ≤ 'h') := by decide
    exact of_decide_eq_true (List.all_eq_true.mp each letter mem)
  · rintro ⟨low, high⟩
    have code_low : 97 ≤ letter.toNat := low
    have code_high : letter.toNat ≤ 104 := high
    rw [← Char.ofNat_toNat letter]
    interval_cases letter.toNat <;> decide

theorem mem_rankDigits_iff {digit : Char} :
    digit ∈ rankDigits ↔ '1' ≤ digit ∧ digit ≤ '8' := by
  constructor
  · intro mem
    have each : rankDigits.all fun digit => decide ('1' ≤ digit ∧ digit ≤ '8') := by decide
    exact of_decide_eq_true (List.all_eq_true.mp each digit mem)
  · rintro ⟨low, high⟩
    have code_low : 49 ≤ digit.toNat := low
    have code_high : digit.toNat ≤ 56 := high
    rw [← Char.ofNat_toNat digit]
    interval_cases digit.toNat <;> decide

theorem name_of_onBoard {square : Square} (on_board : square.OnBoard) :
    square.name = .ok square.boardName := by
  have each : all.all fun square => decide (square.name = .ok square.boardName) := by decide
  exact of_decide_eq_true (List.all_eq_true.mp each square (mem_all_iff.mpr on_board))

/-- A text that is read as a square is the name of that square of the board. -/
theorem ofName?_eq_some_iff {text : String} {square : Square} :
    ofName? text = some square ↔ square.OnBoard ∧ text = square.boardName := by
  constructor
  · intro read
    unfold ofName? at read
    split at read
    · rename_i letter digit text_eq
      split at read
      · rename_i bounds
        obtain ⟨⟨letter_low, letter_high⟩, digit_low, digit_high⟩ := bounds
        have file_low : 97 ≤ letter.toNat := letter_low
        have file_high : letter.toNat ≤ 104 := letter_high
        have rank_low : 49 ≤ digit.toNat := digit_low
        have rank_high : digit.toNat ≤ 56 := digit_high
        obtain rfl := Option.some.inj read
        refine ⟨by simp only [OnBoard]; omega, ?_⟩
        have file_code : ((letter.toNat : Int) - 96).toNat + 96 = letter.toNat := by omega
        have rank_code : ((digit.toNat : Int) - 48).toNat + 48 = digit.toNat := by omega
        rw [boardName, file_code, rank_code, Char.ofNat_toNat, Char.ofNat_toNat, ← text_eq,
          String.ofList_toList]
      · cases read
    · cases read
  · rintro ⟨on_board, rfl⟩
    have each : all.all fun square => decide (ofName? square.boardName = some square) := by decide
    exact of_decide_eq_true (List.all_eq_true.mp each square (mem_all_iff.mpr on_board))

theorem named_eq_ok_iff {text : String} {square : Square} :
    named text = .ok square ↔ square.OnBoard ∧ text = square.boardName := by
  rw [← ofName?_eq_some_iff, named]
  cases ofName? text <;> simp

theorem named_boardName {square : Square} (on_board : square.OnBoard) :
    named square.boardName = .ok square :=
  named_eq_ok_iff.mpr ⟨on_board, rfl⟩

/-- Different squares of the board have different names. -/
theorem eq_of_boardName_eq {left right : Square} (left_on : left.OnBoard)
    (right_on : right.OnBoard) (same : left.boardName = right.boardName) : left = right := by
  have read := named_boardName left_on
  rw [same, named_boardName right_on] at read
  exact (Except.ok.inj read).symm

theorem isName_boardName {square : Square} (on_board : square.OnBoard) :
    IsName square.boardName := by
  obtain ⟨file, rank⟩ := square
  obtain ⟨⟨file_low, file_high⟩, rank_low, rank_high⟩ := on_board
  refine ⟨_, ?_, _, ?_, String.toList_ofList⟩
  · dsimp only
    interval_cases file <;> decide
  · dsimp only
    interval_cases rank <;> decide

/-- Exactly the names are read. -/
theorem exists_named_iff {text : String} : (∃ square, named text = .ok square) ↔ IsName text := by
  constructor
  · rintro ⟨square, read⟩
    obtain ⟨on_board, rfl⟩ := named_eq_ok_iff.mp read
    exact isName_boardName on_board
  · rintro ⟨letter, letter_mem, digit, digit_mem, text_eq⟩
    refine ⟨{ file := letter.toNat - 96, rank := digit.toNat - 48 }, ?_⟩
    rw [named, ofName?, text_eq]
    simp [mem_fileLetters_iff.mp letter_mem, mem_rankDigits_iff.mp digit_mem]

theorem named_eq_error_iff {text : String} {fault : SourceFault} :
    named text = .error fault ↔ ¬ IsName text ∧ fault = .square text := by
  rw [← exists_named_iff, named]
  cases ofName? text <;> simp [eq_comm]

end Square
end ChessDrawing
