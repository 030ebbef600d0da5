import ChessDrawing.Proofs.Board.Name
import ChessDrawing.Proofs.Text.Numeral

/-!
# Naming and reading squares

Naming does not check that a square is on the board: every square whose file has a code point has a
name, also with a negative rank or one of several digits.  Different squares have different names,
and reading, which checks, accepts of all these names those of the squares of the board.
-/

namespace ChessDrawing
namespace Square

variable {square left right : Square} {text : String}

theorem fileLetter_eq_ok_iff {file : Int} {letter : List Char} :
    fileLetter file = .ok letter ↔
      (0 ≤ file + 96 ∧ file + 96 < 0x110000) ∧ letter = Text.codePoint (file + 96).toNat := by
  have word : Nat.pow 2 31 = 2147483648 := rfl
  simp only [fileLetter]
  split_ifs with beyond outside
  · simp only [false_iff, not_and]
    omega
  · simp only [false_iff, not_and]
    omega
  · rw [Except.ok.injEq, eq_comm, iff_and_self]
    omega

/-- A name is the text of the code point of the file and the numeral of the rank. -/
theorem name_eq_ok_iff :
    square.name = .ok text ↔
      (0 ≤ square.file + 96 ∧ square.file + 96 < 0x110000) ∧
        text.toList = Text.codePoint (square.file + 96).toNat ++ Text.integer square.rank := by
  simp only [name, bind_eq_ok_iff, fileLetter_eq_ok_iff, pure, Except.pure, Except.ok.injEq]
  constructor
  · rintro ⟨letter, ⟨has_code, rfl⟩, rfl⟩
    exact ⟨has_code, String.toList_ofList⟩
  · rintro ⟨has_code, text_eq⟩
    exact ⟨_, ⟨has_code, rfl⟩, by rw [← text_eq, String.ofList_toList]⟩

/-- A name belongs to one square, on the board or off it. -/
theorem eq_of_name_eq (left_named : left.name = .ok text) (right_named : right.name = .ok text) :
    left = right := by
  obtain ⟨⟨left_low, left_high⟩, left_text⟩ := name_eq_ok_iff.mp left_named
  obtain ⟨⟨right_low, right_high⟩, right_text⟩ := name_eq_ok_iff.mp right_named
  obtain ⟨codes, ranks⟩ := Text.codePoint_append_integer_inj (by omega) (by omega)
    (left_text.symm.trans right_text)
  obtain ⟨file, rank⟩ := left
  obtain ⟨file', rank'⟩ := right
  simp only at left_low right_low codes ranks
  obtain rfl := ranks
  obtain rfl : file = file' := by omega
  rfl

theorem name_of_named (read : named text = .ok square) : square.name = .ok text := by
  obtain ⟨on_board, rfl⟩ := named_eq_ok_iff.mp read
  exact name_of_onBoard on_board

/-- The name of a square is read exactly if the square is on the board, and as that square. -/
theorem named_of_name_iff (has_name : square.name = .ok text) {found : Square} :
    named text = .ok found ↔ square.OnBoard ∧ found = square := by
  constructor
  · intro read
    obtain rfl := eq_of_name_eq (name_of_named read) has_name
    exact ⟨(named_eq_ok_iff.mp read).1, rfl⟩
  · rintro ⟨on_board, rfl⟩
    obtain rfl := Except.ok.inj (has_name.symm.trans (name_of_onBoard on_board))
    exact named_boardName on_board

/-- Names and squares correspond one to one.  A text is read exactly if it is one of the letters `a`
to `h` followed by one of the digits `1` to `8`, as a square of the board of that name.  Of all
squares those whose file has a code point have names; the name of a square is read exactly if the
square is on the board, as that square, and squares of the same name are equal. -/
theorem names_correspond_to_squares :
    (∀ text, (∃ square, named text = .ok square) ↔ IsName text) ∧
      (∀ text square, named text = .ok square → square.OnBoard ∧ square.name = .ok text) ∧
      (∀ square : Square, (∃ text, square.name = .ok text) ↔
        -96 ≤ square.file ∧ square.file < 0x110000 - 96) ∧
      (∀ square text, square.name = .ok text →
        ∀ found, named text = .ok found ↔ square.OnBoard ∧ found = square) ∧
      ∀ (left right : Square) text, left.name = .ok text → right.name = .ok text →
        left = right := by
  refine ⟨fun _ => exists_named_iff, ?_, ?_, fun _ _ has_name _ => named_of_name_iff has_name,
    fun _ _ _ => eq_of_name_eq⟩
  · intro text square read
    exact ⟨(named_eq_ok_iff.mp read).1, name_of_named read⟩
  · intro square
    constructor
    · rintro ⟨text, has_name⟩
      obtain ⟨has_code, -⟩ := name_eq_ok_iff.mp has_name
      omega
    · intro has_code
      exact ⟨_, name_eq_ok_iff.mpr ⟨by omega, String.toList_ofList⟩⟩

/-- A square off the board has a name that is not read, and no other square has it; a square of the
board is read back from its name. -/
theorem names_of_two_squares :
    (∀ found, named "h-12" ≠ .ok found) ∧
      (∀ square : Square, square.name = .ok "h-12" → square = { file := 8, rank := -12 }) ∧
      named "e4" = .ok { file := 5, rank := 4 } := by
  obtain ⟨-, -, -, read_iff, unique⟩ := names_correspond_to_squares
  have off_board : Square.name { file := 8, rank := -12 } = .ok "h-12" := by decide
  have on_board : Square.name { file := 5, rank := 4 } = .ok "e4" := by decide
  refine ⟨?_, fun square has_name => unique _ _ _ has_name off_board, ?_⟩
  · intro found read
    exact absurd ((read_iff _ _ off_board found).mp read).1 (by decide)
  · exact (read_iff _ _ on_board _).mpr ⟨by decide, rfl⟩

end Square
end ChessDrawing
