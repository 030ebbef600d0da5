import ChessDrawing.Board.Placement
import ChessDrawing.Proofs.Outcome
import ChessDrawing.Proofs.Text.Lines

/-!
# The grammar of placements

A placement is written as eight rows of symbols with a slash between them.  A symbol is a digit,
which weighs its value, or a piece letter, which weighs one, and every row weighs eight.  This file
says which texts follow the grammar without reading them, and shows that exactly these are read,
each letter standing on the file that the weight before it leaves open.
-/

namespace ChessDrawing

/-! ## Letters -/

/-- The small letter of a kind. -/
def PieceKind.letter : PieceKind → Char
  | pawn => 'p'
  | knight => 'n'
  | bishop => 'b'
  | rook => 'r'
  | queen => 'q'
  | king => 'k'

/-- A letter writes a piece: it names the kind regardless of case, and capitals are White's. -/
def Piece.WrittenAs (piece : Piece) (letter : Char) : Prop :=
  letter.toLower = piece.kind.letter ∧ (piece.side = .white ↔ letter.isUpper = true)

theorem Piece.writtenAs_letter (piece : Piece) : piece.WrittenAs piece.letter := by
  obtain ⟨kind, side⟩ := piece
  cases kind <;> cases side <;> simp [WrittenAs, PieceKind.letter, letter]

/-- A letter with a given small letter is that letter, or the capital 32 code points before it. -/
theorem eq_or_capital_of_toLower {letter small : Char} (lower : letter.toLower = small) :
    (letter = small ∧ letter.isUpper = false) ∨
      (letter.toNat + 32 = small.toNat ∧ letter.isUpper = true) := by
  unfold Char.toLower at lower
  split at lower
  · rename_i capital
    right
    have size : letter.val.toNat ≤ 90 := capital.2
    constructor
    · have values : letter.val + ('a'.val - 'A'.val) = small.val := congrArg Char.val lower
      have numbers := congrArg UInt32.toNat values
      have difference : ('a'.val - 'A'.val).toNat = 32 := by decide
      rw [UInt32.toNat_add, difference, Nat.mod_eq_of_lt (by omega)] at numbers
      exact numbers
    · simpa [Char.isUpper] using capital
  · rename_i small_letter
    left
    exact ⟨lower, by simpa [Char.isUpper] using small_letter⟩

theorem Piece.eq_letter_of_writtenAs {piece : Piece} {letter : Char}
    (written : piece.WrittenAs letter) : letter = piece.letter := by
  obtain ⟨kind, side⟩ := piece
  obtain ⟨lower, white⟩ := written
  rcases eq_or_capital_of_toLower lower with ⟨rfl, small⟩ | ⟨code, capital⟩
  · cases side with
    | white => simp [small] at white
    | black => cases kind <;> rfl
  · cases side with
    | white =>
        apply Char.toNat_inj.mp
        cases kind <;> simp [PieceKind.letter, Piece.letter] at code ⊢ <;> omega
    | black => simp [capital] at white

theorem Piece.ofLetter?_eq_some_iff {letter : Char} {piece : Piece} :
    ofLetter? letter = some piece ↔ piece.WrittenAs letter := by
  constructor
  · intro denotes
    rw [← letter_of_ofLetter? denotes]
    exact piece.writtenAs_letter
  · intro written
    rw [eq_letter_of_writtenAs written, ofLetter?_letter]

namespace Rank

/-! ## Symbols -/

/-- The digits of a row. -/
def digits : List Char :=
  ['0', '1', '2', '3', '4', '5', '6', '7', '8', '9']

/-- The piece letters of a row. -/
def letters : List Char :=
  ['p', 'n', 'b', 'r', 'q', 'k', 'P', 'N', 'B', 'R', 'Q', 'K']

/-- How many squares a symbol stands for: the value of a digit, and one for a letter. -/
def weight (symbol : Char) : Nat :=
  if symbol ∈ digits then symbol.toNat - '0'.toNat else 1

/-- How many squares a row of symbols stands for. -/
def rowWeight (row : List Char) : Nat :=
  (row.map weight).sum

@[simp]
theorem rowWeight_nil : rowWeight [] = 0 := rfl

@[simp]
theorem rowWeight_cons (symbol : Char) (row : List Char) :
    rowWeight (symbol :: row) = weight symbol + rowWeight row := by
  simp [rowWeight]

theorem mem_digits_iff {symbol : Char} : symbol ∈ digits ↔ '0' ≤ symbol ∧ symbol ≤ '9' := by
  constructor
  · intro digit
    have each : digits.all fun symbol => decide ('0' ≤ symbol ∧ symbol ≤ '9') := by decide
    exact of_decide_eq_true (List.all_eq_true.mp each symbol digit)
  · rintro ⟨low, high⟩
    have code_low : 48 ≤ symbol.toNat := low
    have code_high : symbol.toNat ≤ 57 := high
    rw [← Char.ofNat_toNat symbol]
    interval_cases symbol.toNat <;> decide

theorem asciiDigit?_of_digit {symbol : Char} (digit : symbol ∈ digits) :
    Text.asciiDigit? symbol = some (weight symbol) := by
  simp [Text.asciiDigit?, weight, digit, mem_digits_iff.mp digit]

theorem asciiDigit?_of_not_digit {symbol : Char} (no_digit : symbol ∉ digits) :
    Text.asciiDigit? symbol = none := by
  rw [mem_digits_iff] at no_digit
  simp [Text.asciiDigit?, no_digit]

theorem mem_letters_iff {symbol : Char} :
    symbol ∈ letters ↔ ∃ piece : Piece, piece.WrittenAs symbol := by
  constructor
  · intro letter
    have each : letters.all fun symbol => (Piece.ofLetter? symbol).isSome := by decide
    obtain ⟨piece, denoted⟩ :=
      Option.isSome_iff_exists.mp (List.all_eq_true.mp each symbol letter)
    exact ⟨piece, Piece.ofLetter?_eq_some_iff.mp denoted⟩
  · rintro ⟨piece, written⟩
    rw [Piece.eq_letter_of_writtenAs written]
    obtain ⟨kind, side⟩ := piece
    cases kind <;> cases side <;> decide

theorem not_digit_of_writtenAs {piece : Piece} {symbol : Char} (written : piece.WrittenAs symbol) :
    symbol ∉ digits := by
  rw [Piece.eq_letter_of_writtenAs written]
  obtain ⟨kind, side⟩ := piece
  cases kind <;> cases side <;> decide

theorem block?_of_digit {symbol : Char} (digit : symbol ∈ digits) :
    block? symbol = some (List.replicate (weight symbol) none) := by
  simp [block?, asciiDigit?_of_digit digit]

theorem block?_of_writtenAs {piece : Piece} {symbol : Char} (written : piece.WrittenAs symbol) :
    block? symbol = some [some piece] := by
  simp [block?, asciiDigit?_of_not_digit (not_digit_of_writtenAs written),
    Piece.ofLetter?_eq_some_iff.mpr written]

theorem block?_of_no_symbol {symbol : Char} (no_digit : symbol ∉ digits)
    (no_letter : symbol ∉ letters) : block? symbol = none := by
  have unknown : Piece.ofLetter? symbol = none := by
    rw [Option.eq_none_iff_forall_ne_some]
    intro piece denotes
    exact no_letter (mem_letters_iff.mpr ⟨piece, Piece.ofLetter?_eq_some_iff.mp denotes⟩)
  simp [block?, asciiDigit?_of_not_digit no_digit, unknown]

/-- A symbol that describes squares is a digit with its empty squares or the letter of a piece. -/
theorem cases_of_block? {symbol : Char} {block : List (Option Piece)}
    (described : block? symbol = some block) :
    (symbol ∈ digits ∧ block = List.replicate (weight symbol) none) ∨
      ∃ piece : Piece, piece.WrittenAs symbol ∧ block = [some piece] := by
  by_cases digit : symbol ∈ digits
  · rw [block?_of_digit digit, Option.some.injEq] at described
    exact Or.inl ⟨digit, described.symm⟩
  · by_cases letter : symbol ∈ letters
    · obtain ⟨piece, written⟩ := mem_letters_iff.mp letter
      rw [block?_of_writtenAs written, Option.some.injEq] at described
      exact Or.inr ⟨piece, written, described.symm⟩
    · rw [block?_of_no_symbol digit letter] at described
      cases described

/-! ## Rows -/

theorem expand_cons_eq_ok_iff {symbol : Char} {row : List Char} {cells : List (Option Piece)} :
    expand (symbol :: row) = .ok cells ↔
      ∃ block later, block? symbol = some block ∧ expand row = .ok later ∧
        cells = block ++ later := by
  rw [expand]
  cases block? symbol with
  | none => simp
  | some block => simp [map_eq_ok_iff, @eq_comm _ cells]

/-- A row is read exactly if all its characters are symbols. -/
theorem exists_expand_iff {row : List Char} :
    (∃ cells, expand row = .ok cells) ↔ ∀ symbol ∈ row, symbol ∈ digits ∨ symbol ∈ letters := by
  induction row with
  | nil => simp [expand]
  | cons symbol row ih =>
      simp only [expand_cons_eq_ok_iff, List.forall_mem_cons, ← ih]
      constructor
      · rintro ⟨cells, block, later, described, read, rfl⟩
        refine ⟨?_, later, read⟩
        by_contra neither
        rw [not_or] at neither
        simp [block?_of_no_symbol neither.1 neither.2] at described
      · rintro ⟨digit | letter, later, read⟩
        · exact ⟨_, _, later, block?_of_digit digit, read, rfl⟩
        · obtain ⟨piece, written⟩ := mem_letters_iff.mp letter
          exact ⟨_, _, later, block?_of_writtenAs written, read, rfl⟩

theorem length_of_block? {symbol : Char} {block : List (Option Piece)}
    (described : block? symbol = some block) : block.length = weight symbol := by
  rcases cases_of_block? described with ⟨-, rfl⟩ | ⟨piece, written, rfl⟩
  · exact List.length_replicate
  · rw [weight, if_neg (not_digit_of_writtenAs written)]
    rfl

theorem length_of_expand {row : List Char} {cells : List (Option Piece)}
    (read : expand row = .ok cells) : cells.length = rowWeight row := by
  induction row generalizing cells with
  | nil =>
      cases read
      rfl
  | cons symbol row ih =>
      obtain ⟨block, later, described, read_later, rfl⟩ := expand_cons_eq_ok_iff.mp read
      simp [length_of_block? described, ih read_later]

theorem getElem?_block? {symbol : Char} {block : List (Option Piece)}
    (described : block? symbol = some block) (index : Nat) (piece : Piece) :
    block[index]? = some (some piece) ↔ index = 0 ∧ piece.WrittenAs symbol := by
  rcases cases_of_block? described with ⟨digit, rfl⟩ | ⟨other, written, rfl⟩
  · constructor
    · intro found
      simp [List.getElem?_replicate] at found
    · rintro ⟨-, written⟩
      exact absurd digit (not_digit_of_writtenAs written)
  · rw [← Piece.ofLetter?_eq_some_iff, Piece.ofLetter?_eq_some_iff.mpr written]
    cases index <;> simp

/-- A letter of a longer row is its first symbol or a letter of the rest. -/
theorem exists_letter_cons_iff {symbol : Char} {row : List Char} {index : Nat} {piece : Piece} :
    (∃ before letter after, symbol :: row = before ++ letter :: after ∧
        rowWeight before = index ∧ piece.WrittenAs letter) ↔
      (index = 0 ∧ piece.WrittenAs symbol) ∨
        ∃ before letter after, row = before ++ letter :: after ∧
          weight symbol + rowWeight before = index ∧ piece.WrittenAs letter := by
  constructor
  · rintro ⟨before, letter, after, row_eq, weighs, written⟩
    cases before with
    | nil =>
        obtain ⟨rfl, rfl⟩ := List.cons.inj row_eq
        exact Or.inl ⟨weighs.symm, written⟩
    | cons first before =>
        obtain ⟨rfl, rfl⟩ := List.cons.inj row_eq
        exact Or.inr ⟨before, letter, after, rfl, by simpa using weighs, written⟩
  · rintro (⟨rfl, written⟩ | ⟨before, letter, after, rfl, rfl, written⟩)
    · exact ⟨[], symbol, row, rfl, rfl, written⟩
    · exact ⟨symbol :: before, letter, after, rfl, rowWeight_cons symbol before, written⟩

/-- A piece stands where its letter is read: at the index of the weight before it. -/
theorem getElem?_expand {row : List Char} {cells : List (Option Piece)}
    (read : expand row = .ok cells) (index : Nat) (piece : Piece) :
    cells[index]? = some (some piece) ↔
      ∃ before letter after, row = before ++ letter :: after ∧ rowWeight before = index ∧
        piece.WrittenAs letter := by
  induction row generalizing cells index with
  | nil =>
      cases read
      simp
  | cons symbol row ih =>
      obtain ⟨block, later, described, read_later, rfl⟩ := expand_cons_eq_ok_iff.mp read
      have width := length_of_block? described
      have first := getElem?_block? described index piece
      rw [exists_letter_cons_iff, ← first, List.getElem?_append]
      split
      · -- The block of the first symbol ends after this index, so no later letter is meant.
        have too_heavy : ¬ ∃ before letter after, row = before ++ letter :: after ∧
            weight symbol + rowWeight before = index ∧ piece.WrittenAs letter := by
          rintro ⟨before, letter, after, -, weighs, -⟩
          omega
        exact (or_iff_left too_heavy).symm
      · have outside : block[index]? = none := List.getElem?_eq_none (by omega)
        rw [outside, ih read_later]
        simp only [reduceCtorEq, false_or]
        constructor
        · rintro ⟨before, letter, after, row_eq, weighs, written⟩
          exact ⟨before, letter, after, row_eq, by omega, written⟩
        · rintro ⟨before, letter, after, row_eq, weighs, written⟩
          exact ⟨before, letter, after, row_eq, by omega, written⟩

theorem ofRow_eq_ok_iff {number : Nat} {row : List Char} {rank : Rank} :
    ofRow number row = .ok rank ↔ expand row = .ok rank.cells := by
  obtain ⟨cells, length_cells⟩ := rank
  unfold ofRow
  cases expand row with
  | error letter => simp
  | ok found =>
      simp only [Except.ok.injEq]
      split
      · simp
      · rename_i other_length
        simp only [reduceCtorEq, false_iff]
        rintro rfl
        exact other_length length_cells

/-- A row describes a rank exactly if it holds symbols only and weighs eight. -/
theorem exists_rank_iff {row : List Char} :
    (∃ rank : Rank, expand row = .ok rank.cells) ↔
      (∀ symbol ∈ row, symbol ∈ digits ∨ symbol ∈ letters) ∧ rowWeight row = 8 := by
  rw [← exists_expand_iff]
  constructor
  · rintro ⟨rank, read⟩
    exact ⟨⟨rank.cells, read⟩, (length_of_expand read).symm.trans rank.length_cells⟩
  · rintro ⟨⟨cells, read⟩, weighs⟩
    exact ⟨{ cells, length_cells := (length_of_expand read).trans weighs }, read⟩

end Rank

namespace Placement

/-! ## Texts -/

/-- The rows of a placement text. -/
def rows (text : String) : List (List Char) :=
  text.toList.splitOn '/'

/-- A text follows the grammar: eight rows of symbols that weigh eight each. -/
structure InGrammar (text : String) : Prop where
  /-- There are eight rows. -/
  eight_rows : (rows text).length = 8
  /-- Every character of a row is a digit or a piece letter. -/
  symbols : ∀ row ∈ rows text, ∀ symbol ∈ row, symbol ∈ Rank.digits ∨ symbol ∈ Rank.letters
  /-- Every row describes eight squares. -/
  eight_squares : ∀ row ∈ rows text, Rank.rowWeight row = 8

instance (text : String) : Decidable (InGrammar text) :=
  decidable_of_iff
    ((rows text).length = 8 ∧
      ((rows text).all fun row =>
        row.all fun symbol => symbol ∈ Rank.digits ∨ symbol ∈ Rank.letters) ∧
      (rows text).all fun row => Rank.rowWeight row = 8) <| by
    simp only [List.all_eq_true, decide_eq_true_eq]
    constructor
    · rintro ⟨eight_rows, symbols, eight_squares⟩
      exact { eight_rows, symbols, eight_squares }
    · rintro ⟨eight_rows, symbols, eight_squares⟩
      exact ⟨eight_rows, symbols, eight_squares⟩

theorem ranksOfRows_eq_ok_iff {rows : List (List Char)} {ranks : List Rank} :
    ranksOfRows rows = .ok ranks ↔
      List.Forall₂ (fun row rank => Rank.expand row = .ok rank.cells) rows ranks := by
  induction rows generalizing ranks with
  | nil => simp [ranksOfRows, eq_comm]
  | cons row rows ih =>
      simp only [ranksOfRows, bind_eq_ok_iff, Rank.ofRow_eq_ok_iff, ih, pure, Except.pure,
        Except.ok.injEq, List.forall₂_cons_left_iff]
      constructor
      · rintro ⟨rank, read, later, read_later, rfl⟩
        exact ⟨rank, later, read, read_later, rfl⟩
      · rintro ⟨rank, later, read, read_later, rfl⟩
        exact ⟨rank, read, later, read_later, rfl⟩

/-- A text is read as a placement whose ranks are the ranks of its rows. -/
theorem ofText_eq_ok_iff {text : String} {placement : Placement} :
    ofText text = .ok placement ↔
      List.Forall₂ (fun row rank => Rank.expand row = .ok rank.cells) (rows text)
        placement.ranks := by
  rw [← ranksOfRows_eq_ok_iff, rows, ← Text.split_eq_splitOn, ofText]
  constructor
  · intro read
    split at read
    · split at read
      · cases read
      · rename_i ranks described
        cases read
        exact described
    · cases read
  · intro described
    have eight : (Text.split '/' text.toList).length = 8 := by
      rw [← length_of_ranksOfRows described, placement.length_ranks]
    rw [dif_pos eight]
    split
    · rename_i fault failed
      simp [described] at failed
    · rename_i ranks found
      obtain rfl := Except.ok.inj (described.symm.trans found)
      rfl

theorem exists_forall₂_iff {Row Item : Type} {describes : Row → Item → Prop} {rows : List Row} :
    (∃ items, List.Forall₂ describes rows items) ↔ ∀ row ∈ rows, ∃ item, describes row item := by
  induction rows with
  | nil => simp
  | cons row rows ih =>
      rw [List.forall_mem_cons, ← ih]
      constructor
      · rintro ⟨_, first | ⟨first, later⟩⟩
        exact ⟨⟨_, first⟩, _, later⟩
      · rintro ⟨⟨item, first⟩, items, later⟩
        exact ⟨item :: items, .cons first later⟩

/-- Exactly the texts that follow the grammar are read. -/
theorem exists_ofText_iff {text : String} :
    (∃ placement, ofText text = .ok placement) ↔ InGrammar text := by
  have rows_read : (∃ ranks, List.Forall₂ (fun row (rank : Rank) =>
      Rank.expand row = .ok rank.cells) (rows text) ranks) ↔
        ∀ row ∈ rows text, (∀ symbol ∈ row, symbol ∈ Rank.digits ∨ symbol ∈ Rank.letters) ∧
          Rank.rowWeight row = 8 := by
    simp only [exists_forall₂_iff, Rank.exists_rank_iff]
  constructor
  · rintro ⟨placement, read⟩
    have described := ofText_eq_ok_iff.mp read
    have each := rows_read.mp ⟨placement.ranks, described⟩
    exact
      { eight_rows := described.length_eq.trans placement.length_ranks
        symbols := fun row mem => (each row mem).1
        eight_squares := fun row mem => (each row mem).2 }
  · intro grammar
    obtain ⟨ranks, described⟩ :=
      rows_read.mpr fun row mem => ⟨grammar.symbols row mem, grammar.eight_squares row mem⟩
    exact ⟨{ ranks, length_ranks := described.length_eq.symm.trans grammar.eight_rows },
      ofText_eq_ok_iff.mpr described⟩

theorem exists_ofText_error_iff {text : String} :
    (∃ fault, ofText text = .error fault) ↔ ¬ InGrammar text := by
  rw [← exists_ofText_iff]
  cases ofText text <;> simp

/-! ## Cells -/

theorem cell?_eq_getElem? (placement : Placement) {index file : Nat} (index_lt : index < 8)
    (file_pos : 1 ≤ file) (file_le : file ≤ 8) :
    placement.cell? { file, rank := 8 - index } =
      placement.ranks[index]?.bind fun rank => rank.cells[file - 1]? := by
  have on_board : Square.OnBoard { file, rank := 8 - index } := by
    simp only [Square.OnBoard]
    omega
  have row_index : ((8 : Int) - (8 - index)).toNat = index := by omega
  have cell_index : ((file : Int) - 1).toNat = file - 1 := by omega
  rw [cell?, if_pos on_board]
  simp only [row_index, cell_index]
  rfl

/-- Every square of the board has a cell. -/
theorem exists_cell? (placement : Placement) {index file : Nat} (index_lt : index < 8)
    (file_pos : 1 ≤ file) (file_le : file ≤ 8) :
    ∃ cell, placement.cell? { file, rank := 8 - index } = some cell := by
  have has_rank : index < placement.ranks.length := by rw [placement.length_ranks]; exact index_lt
  have has_cell : file - 1 < placement.ranks[index].cells.length := by
    rw [placement.ranks[index].length_cells]
    omega
  rw [cell?_eq_getElem? placement index_lt file_pos file_le, List.getElem?_eq_getElem has_rank,
    Option.bind_some, List.getElem?_eq_getElem has_cell]
  exact ⟨_, rfl⟩

/-- A square of a row that was read holds what the row describes there. -/
theorem exists_cells_of_ofText {text : String} {placement : Placement}
    (read : ofText text = .ok placement) {index : Nat} {row : List Char}
    (row_at : (rows text)[index]? = some row) :
    ∃ cells, Rank.expand row = .ok cells ∧
      ∀ file, 1 ≤ file → file ≤ 8 →
        placement.cell? { file := (file : Nat), rank := 8 - index } = cells[file - 1]? := by
  have described := ofText_eq_ok_iff.mp read
  obtain ⟨index_lt, row_eq⟩ := List.getElem?_eq_some_iff.mp row_at
  have rank_lt : index < placement.ranks.length := by
    rw [← described.length_eq]
    exact index_lt
  have row_read := described.get index_lt rank_lt
  simp only [List.get_eq_getElem, row_eq] at row_read
  refine ⟨_, row_read, ?_⟩
  intro file file_pos file_le
  have index_lt_eight : index < 8 := placement.length_ranks ▸ rank_lt
  rw [cell?_eq_getElem? placement index_lt_eight file_pos file_le,
    List.getElem?_eq_getElem rank_lt, Option.bind_some]

/-- Reading accepts exactly the grammar.  On each file stands the piece of the letter whose
preceding symbols weigh as much as the files before it, and nothing where there is no such
letter. -/
theorem ofText_accepts_grammar (text : String) :
    ((∃ placement, ofText text = .ok placement) ↔ InGrammar text) ∧
      ∀ placement, ofText text = .ok placement →
        ∀ (index file : Nat) (row : List Char), (rows text)[index]? = some row →
          1 ≤ file → file ≤ 8 →
            (∀ piece, placement.cell? { file, rank := 8 - index } = some (some piece) ↔
              ∃ before letter after, row = before ++ letter :: after ∧
                Rank.rowWeight before + 1 = file ∧ piece.WrittenAs letter) ∧
            (placement.cell? { file, rank := 8 - index } = some none ↔
              ¬ ∃ before letter after, row = before ++ letter :: after ∧
                Rank.rowWeight before + 1 = file ∧ letter ∈ Rank.letters) := by
  refine ⟨exists_ofText_iff, ?_⟩
  intro placement read index file row row_at file_pos file_le
  obtain ⟨cells, row_read, cell_eq⟩ := exists_cells_of_ofText read row_at
  have occupied (piece : Piece) :
      placement.cell? { file, rank := 8 - index } = some (some piece) ↔
        ∃ before letter after, row = before ++ letter :: after ∧
          Rank.rowWeight before + 1 = file ∧ piece.WrittenAs letter := by
    rw [cell_eq file file_pos file_le, Rank.getElem?_expand row_read]
    have weights (weight : Nat) : weight = file - 1 ↔ weight + 1 = file := by omega
    simp only [weights]
  refine ⟨occupied, ?_⟩
  have index_lt : index < 8 := by
    have described := ofText_eq_ok_iff.mp read
    rw [← placement.length_ranks, ← described.length_eq]
    exact (List.getElem?_eq_some_iff.mp row_at).1
  obtain ⟨cell, filled⟩ := exists_cell? placement index_lt file_pos file_le
  rw [filled]
  simp only [filled, Option.some.injEq] at occupied
  cases cell with
  | none =>
      simp only [true_iff]
      rintro ⟨before, letter, after, row_eq, weighs, is_letter⟩
      obtain ⟨piece, written⟩ := Rank.mem_letters_iff.mp is_letter
      simpa using (occupied piece).mpr ⟨before, letter, after, row_eq, weighs, written⟩
  | some piece =>
      obtain ⟨before, letter, after, row_eq, weighs, written⟩ := (occupied piece).mp rfl
      simp only [Option.some.injEq, reduceCtorEq, false_iff, not_not]
      exact ⟨before, letter, after, row_eq, weighs, Rank.mem_letters_iff.mpr ⟨piece, written⟩⟩

/-- The king of the first row stands behind a rook and three empty squares. -/
theorem cell?_of_r3k2r :
    ∃ placement, ofText "r3k2r/44/8/8/404/8/8/K7" = .ok placement ∧
      placement.cell? { file := 5, rank := 8 } = some (some { kind := .king, side := .black }) := by
  have accepts := ofText_accepts_grammar "r3k2r/44/8/8/404/8/8/K7"
  obtain ⟨placement, read⟩ := accepts.1.mpr (by decide)
  have row_at : (rows "r3k2r/44/8/8/404/8/8/K7")[0]? = some ['r', '3', 'k', '2', 'r'] := by decide
  have king := (accepts.2 placement read 0 5 _ row_at (by decide) (by decide)).1
  refine ⟨placement, read, (king _).mpr ⟨['r', '3'], 'k', ['2', 'r'], rfl, by decide, ?_⟩⟩
  exact Piece.ofLetter?_eq_some_iff.mp rfl

end Placement
end ChessDrawing
