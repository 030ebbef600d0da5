import ChessDrawing.Proofs.Board.Grammar

/-!
# The first fault of a placement text

A text that is no placement is at fault through the number of its rows or through one row.  A row is
at fault through its first character that is no symbol or, where all are symbols, through its weight.
Rows are judged from the eighth rank downwards, and none below the first one at fault is looked at.
-/

namespace ChessDrawing
namespace Rank

/-! ## Rows -/

/-- The character is a digit or the letter of a piece. -/
def IsSymbol (character : Char) : Prop :=
  character ∈ digits ∨ character ∈ letters

instance (character : Char) : Decidable (IsSymbol character) :=
  inferInstanceAs (Decidable (_ ∨ _))

/-- The row holds symbols only and describes eight squares. -/
def IsFull (row : List Char) : Prop :=
  (∀ character ∈ row, IsSymbol character) ∧ rowWeight row = 8

instance (row : List Char) : Decidable (IsFull row) :=
  decidable_of_iff ((row.all fun character => IsSymbol character) ∧ rowWeight row = 8)
    (by simp [IsFull])

/-- What is wrong with the row of a rank. -/
inductive RowFault (number : Nat) (row : List Char) : SourceFault → Prop
  /-- The first character that is no symbol, whatever the characters before it weigh. -/
  | letter {character : Char} (first : FirstWithout IsSymbol row character) :
      RowFault number row (.letterOnRank character number (String.ofList row))
  /-- The weight of the whole row, where all characters are symbols. -/
  | weight (symbols : ∀ character ∈ row, IsSymbol character) (not_eight : rowWeight row ≠ 8) :
      RowFault number row (.rankLength number (rowWeight row) (String.ofList row))

variable {number : Nat} {row : List Char} {fault : SourceFault}

theorem block?_eq_none_iff {character : Char} : block? character = none ↔ ¬ IsSymbol character := by
  constructor
  · rintro unknown (digit | letter)
    · rw [block?_of_digit digit] at unknown
      cases unknown
    · obtain ⟨piece, written⟩ := mem_letters_iff.mp letter
      rw [block?_of_writtenAs written] at unknown
      cases unknown
  · intro no_symbol
    obtain ⟨no_digit, no_letter⟩ := not_or.mp no_symbol
    exact block?_of_no_symbol no_digit no_letter

/-- Expanding a row stops at its first character that is no symbol. -/
theorem expand_eq_error_iff {character : Char} :
    expand row = .error character ↔ FirstWithout IsSymbol row character := by
  induction row with
  | nil => simp [expand, not_firstWithout_nil]
  | cons symbol row ih =>
      rw [expand, firstWithout_cons_iff, ← ih]
      cases described : block? symbol with
      | none => simp [block?_eq_none_iff.mp described, @eq_comm _ symbol]
      | some block =>
          have known : IsSymbol symbol := by
            by_contra no_symbol
            rw [block?_eq_none_iff.mpr no_symbol] at described
            cases described
          simp [known, map_eq_error_iff]

theorem exists_ofRow_iff : (∃ rank, ofRow number row = .ok rank) ↔ IsFull row := by
  simp only [ofRow_eq_ok_iff]
  exact exists_rank_iff

theorem ofRow_eq_error_iff : ofRow number row = .error fault ↔ RowFault number row fault := by
  cases read : expand row with
  | error character =>
      have first := expand_eq_error_iff.mp read
      rw [ofRow, read]
      constructor
      · intro blamed
        obtain rfl := Except.error.inj blamed
        exact .letter first
      · intro blamed
        cases blamed with
        | letter other =>
            obtain rfl := Except.error.inj (read.symm.trans (expand_eq_error_iff.mpr other))
            rfl
        | weight symbols _ =>
            obtain ⟨cells, expanded⟩ := exists_expand_iff.mpr symbols
            rw [read] at expanded
            cases expanded
  | ok cells =>
      have symbols := exists_expand_iff.mp ⟨cells, read⟩
      have weighs := length_of_expand read
      rw [ofRow, read]
      constructor
      · intro blamed
        simp only at blamed
        split at blamed
        · cases blamed
        · rename_i not_eight
          obtain rfl := Except.error.inj blamed
          rw [weighs] at not_eight ⊢
          exact .weight symbols not_eight
      · intro blamed
        cases blamed with
        | letter first =>
            rw [expand_eq_error_iff.mpr first] at read
            cases read
        | weight _ not_eight =>
            rw [← weighs] at not_eight ⊢
            simp [not_eight]

end Rank

namespace Placement

/-! ## Texts -/

/-- Rows are refused for the first one that is not full, numbered by the rows from it on. -/
theorem ranksOfRows_eq_error_iff {rows : List (List Char)} {fault : SourceFault} :
    ranksOfRows rows = .error fault ↔
      ∃ before row after, rows = before ++ row :: after ∧
        (∀ earlier ∈ before, Rank.IsFull earlier) ∧
          Rank.RowFault (after.length + 1) row fault := by
  induction rows with
  | nil => simp [ranksOfRows]
  | cons first rows ih =>
      simp only [ranksOfRows, bind_eq_error_iff, pure, Except.pure, reduceCtorEq, and_false,
        exists_false, or_false, ih, Rank.ofRow_eq_error_iff]
      constructor
      · rintro (blamed | ⟨rank, read, before, row, after, rfl, full, blamed⟩)
        · exact ⟨[], first, rows, rfl, by simp, blamed⟩
        · refine ⟨first :: before, row, after, rfl, ?_, blamed⟩
          exact List.forall_mem_cons.mpr ⟨Rank.exists_ofRow_iff.mp ⟨rank, read⟩, full⟩
      · rintro ⟨before, row, after, rows_eq, full, blamed⟩
        cases before with
        | nil =>
            obtain ⟨rfl, rfl⟩ := List.cons.inj rows_eq
            exact Or.inl blamed
        | cons earlier before =>
            obtain ⟨rfl, rfl⟩ := List.cons.inj rows_eq
            obtain ⟨first_full, later_full⟩ := List.forall_mem_cons.mp full
            obtain ⟨rank, read⟩ := Rank.exists_ofRow_iff.mpr first_full
            exact Or.inr ⟨rank, read, before, row, after, rfl, later_full, blamed⟩

/-- The fault of a text in reading order. -/
inductive FirstFault (text : String) : SourceFault → Prop
  /-- The number of rows. -/
  | rowCount (not_eight : (rows text).length ≠ 8) :
      FirstFault text (.rankCount (rows text).length text)
  /-- What is wrong with the first of eight rows that is not full. -/
  | row {before after : List (List Char)} {row : List Char} {fault : SourceFault}
      (eight : (rows text).length = 8) (rows_eq : rows text = before ++ row :: after)
      (full : ∀ earlier ∈ before, Rank.IsFull earlier)
      (blamed : Rank.RowFault (8 - before.length) row fault) :
      FirstFault text fault

theorem ofText_of_eight_rows {text : String} {fault : SourceFault}
    (eight : (rows text).length = 8) :
    ofText text = .error fault ↔ ranksOfRows (rows text) = .error fault := by
  rw [rows, ← Text.split_eq_splitOn] at eight ⊢
  rw [ofText, dif_pos eight]
  split <;> simp_all

theorem ofText_of_other_rows {text : String} (not_eight : (rows text).length ≠ 8) :
    ofText text = .error (.rankCount (rows text).length text) := by
  rw [rows, ← Text.split_eq_splitOn] at not_eight ⊢
  rw [ofText, dif_neg not_eight]

theorem ofText_eq_error_iff {text : String} {fault : SourceFault} :
    ofText text = .error fault ↔ FirstFault text fault := by
  by_cases eight : (rows text).length = 8
  · rw [ofText_of_eight_rows eight, ranksOfRows_eq_error_iff]
    constructor
    · rintro ⟨before, row, after, rows_eq, full, blamed⟩
      have number : after.length + 1 = 8 - before.length := by
        rw [rows_eq, List.length_append, List.length_cons] at eight
        omega
      rw [number] at blamed
      exact .row eight rows_eq full blamed
    · intro first
      cases first with
      | rowCount not_eight => exact absurd eight not_eight
      | @row before after row _ _ rows_eq full blamed =>
          have number : 8 - before.length = after.length + 1 := by
            rw [rows_eq, List.length_append, List.length_cons] at eight
            omega
          rw [number] at blamed
          exact ⟨before, row, after, rows_eq, full, blamed⟩
  · rw [ofText_of_other_rows eight]
    constructor
    · intro blamed
      obtain rfl := Except.error.inj blamed
      exact .rowCount eight
    · intro first
      cases first with
      | rowCount _ => rfl
      | row other => exact absurd other eight

/-! ## Later rows -/

/-- The rows up to one that is not full decide about the fault. -/
theorem FirstFault.of_take_eq {text other : String} {fault : SourceFault} {count : Nat}
    (first : FirstFault text fault) (eight : (rows text).length = 8)
    (other_eight : (rows other).length = 8)
    (same : (rows other).take count = (rows text).take count)
    (not_full : ∃ row ∈ (rows text).take count, ¬ Rank.IsFull row) : FirstFault other fault := by
  cases first with
  | rowCount not_eight => exact absurd eight not_eight
  | @row before after row _ _ rows_eq full blamed =>
      -- otherwise only full rows are taken
      have reached : before.length < count := by
        by_contra short
        obtain ⟨bad, bad_mem, bad_not_full⟩ := not_full
        rw [rows_eq, List.take_append_of_le_length (Nat.le_of_not_lt short)] at bad_mem
        exact bad_not_full (full bad (List.mem_of_mem_take bad_mem))
      have taken : (rows other).take (before.length + 1) = before ++ [row] := by
        calc
          (rows other).take (before.length + 1) =
              ((rows other).take count).take (before.length + 1) := by
            rw [List.take_take, Nat.min_eq_left reached]
          _ = (rows text).take (before.length + 1) := by
            rw [same, List.take_take, Nat.min_eq_left reached]
          _ = before ++ [row] := by
            rw [rows_eq, List.take_append]
            simp
      have other_eq : rows other = before ++ row :: (rows other).drop (before.length + 1) := by
        rw [List.append_cons, ← taken, List.take_append_drop]
      exact .row other_eight other_eq full blamed

theorem not_inGrammar_of_row {text : String} {row : List Char} (mem : row ∈ rows text)
    (not_full : ¬ Rank.IsFull row) : ¬ InGrammar text :=
  fun grammar => not_full ⟨grammar.symbols row mem, grammar.eight_squares row mem⟩

/-- A text is refused exactly if it is no placement, and then for its first fault in reading order:
the number of its rows, or else what is wrong with the first of eight rows that is not full.  Texts
of eight rows that agree down to a row that is not full are refused for the same fault. -/
theorem ofText_blames_first_fault (text : String) :
    (∀ fault, ofText text = .error fault ↔ FirstFault text fault) ∧
      ((∃ fault, ofText text = .error fault) ↔ ¬ InGrammar text) ∧
        ∀ (other : String) (count : Nat), (rows text).length = 8 → (rows other).length = 8 →
          (rows other).take count = (rows text).take count →
            (∃ row ∈ (rows text).take count, ¬ Rank.IsFull row) →
              ∃ fault, ofText text = .error fault ∧ ofText other = .error fault := by
  refine ⟨fun fault => ofText_eq_error_iff, exists_ofText_error_iff, ?_⟩
  intro other count eight other_eight same not_full
  obtain ⟨row, taken, row_not_full⟩ := not_full
  obtain ⟨fault, refused⟩ :=
    exists_ofText_error_iff.mpr (not_inGrammar_of_row (List.mem_of_mem_take taken) row_not_full)
  have first := ofText_eq_error_iff.mp refused
  have other_first := first.of_take_eq eight other_eight same ⟨row, taken, row_not_full⟩
  exact ⟨fault, refused, ofText_eq_error_iff.mpr other_first⟩

/-- A letter that is none is blamed though the nine squares before it are too many already, and
whatever the rows below hold; a row of symbols is blamed with its whole weight. -/
theorem ofText_of_letter_after_nine_squares :
    (∃ fault, ofText "8/44/9x/zz/8/8/8/8" = .error fault ∧
      ofText "8/44/9x/8/8/7/8/K7" = .error fault ∧
        fault.message = "Unknown piece letter: 'x' on rank 6: '9x'") ∧
      ofText "8/44/pp9/zz/8/8/8/8" = .error (.rankLength 6 11 "pp9") := by
  constructor
  · obtain ⟨blames, -, shared⟩ := ofText_blames_first_fault "8/44/9x/zz/8/8/8/8"
    obtain ⟨fault, refused, other_refused⟩ := shared "8/44/9x/8/8/7/8/K7" 3 (by decide +kernel)
      (by decide +kernel) (by decide +kernel) (by decide +kernel)
    have rows_eq : rows "8/44/9x/zz/8/8/8/8" =
        [['8'], ['4', '4']] ++ ['9', 'x'] :: [['z', 'z'], ['8'], ['8'], ['8'], ['8']] := by
      decide +kernel
    have letter := (blames _).mpr <|
      .row (by decide +kernel) rows_eq (by decide)
        (.letter ⟨['9'], [], rfl, List.forall_mem_singleton.mpr (by decide), by decide⟩)
    obtain rfl := Except.error.inj (refused.symm.trans letter)
    exact ⟨_, refused, other_refused, by decide +kernel⟩
  · have rows_eq : rows "8/44/pp9/zz/8/8/8/8" =
        [['8'], ['4', '4']] ++ ['p', 'p', '9'] :: [['z', 'z'], ['8'], ['8'], ['8'], ['8']] := by
      decide +kernel
    apply ((ofText_blames_first_fault "8/44/pp9/zz/8/8/8/8").1 _).mpr
    exact .row (by decide +kernel) rows_eq (by decide) (.weight (by simp; decide) (by decide))

end Placement
end ChessDrawing
