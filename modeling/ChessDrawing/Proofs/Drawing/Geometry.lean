import ChessDrawing.Proofs.Drawing.Faithful
import ChessDrawing.Proofs.Number.Length

/-!
# Boards that can be drawn

A board has squares of a finite size as long as its width stays below a limit.  The middles of
different rows and columns are then apart by more than what rounding moves them, so that an arrow
between different squares has a length.  A diagram whose names are squares is therefore drawn at
every width from one pixel to the limit, and at none beyond.
-/

namespace ChessDrawing

open Binary64

/-! ## The side of a square -/

/-- The least number of pixels whose eighth is too large for a double. -/
@[irreducible]
def Width.limit : Nat :=
  Nat.pow 2 1027 - Nat.pow 2 973

/-- The number is the side of a square of a board that is not tiny. -/
structure IsSide (size : Binary64) : Prop where
  /-- The side is finite. -/
  isFinite : size.IsFinite
  /-- The side is at least a sixteenth of a pixel. -/
  sixteenth_le : 1 / 16 ≤ size.toRat

namespace Width

theorem roundUnits_eighth_lt_iff (count : Nat) :
    roundUnits (unitsPerOne * count) 8 < unitLimit ↔ count < limit := by
  -- the limit lies half a step above the widest board, where widths are a step apart
  obtain ⟨half, gap_eq, limit_eq⟩ : ∃ half,
      8 * largestGap = 2 * (unitsPerOne * half) ∧ limit + half = 2 ^ 54 * half :=
    ⟨Nat.pow 2 973, by decide +kernel, by decide +kernel⟩
  have cancel : unitsPerOne * (count + half) < unitsPerOne * (limit + half) ↔
      count + half < limit + half :=
    Nat.mul_lt_mul_left unitsPerOne_pos
  rw [limit_eq, Nat.mul_add, Nat.mul_left_comm, ← limit_eq] at cancel
  rw [roundUnits_lt_unitLimit_iff (by decide), gap_eq]
  omega

theorem squareSize_pixels (count : Int) :
    (pixels count).squareSize =
      if count.natAbs < limit then
        .ok (.finite (count < 0) (roundUnits (unitsPerOne * count.natAbs) 8))
      else
        .error .widthTooLarge := by
  rw [squareSize, ofQuotient?, rounded, ofUnits]
  by_cases small : count.natAbs < limit
  · rw [if_pos small, if_pos ((roundUnits_eighth_lt_iff _).mpr small)]
  · rw [if_neg small, if_neg (mt (roundUnits_eighth_lt_iff _).mp small)]

/-- A board of one pixel or more has squares with a side as long as its width is below the limit. -/
theorem exists_side {count : Int} (positive : 1 ≤ count) (small : count < limit) :
    ∃ size, (pixels count).squareSize = .ok size ∧ IsSide size := by
  obtain ⟨pixels, rfl⟩ := Int.eq_ofNat_of_zero_le (by omega : 0 ≤ count)
  have small_pixels : pixels < limit := by exact_mod_cast small
  have pixels_ge : (1 : ℚ) ≤ pixels := by exact_mod_cast positive
  have sized := squareSize_pixels pixels
  rw [Int.natAbs_natCast, if_pos small_pixels, decide_eq_false (Int.natCast_nonneg pixels).not_gt]
    at sized
  have rounds := rounds_rounded false (unitsPerOne * pixels) (show 0 < 8 by decide)
  rw [rounded, ofUnits, if_pos ((roundUnits_eighth_lt_iff pixels).mpr small_pixels)] at rounds
  have exact_eq : sign false * (((unitsPerOne * pixels : Nat) : ℚ) / (8 : Nat) / unitsPerOne) =
      pixels / 8 := by
    have scale_ne := cast_unitsPerOne_pos.ne'
    rw [sign, if_neg Bool.false_ne_true, one_mul]
    push_cast
    field_simp
  rw [exact_eq] at rounds
  refine ⟨_, sized, trivial, ?_⟩
  have error := (abs_le.mp (rounds.close trivial)).1
  have half_le := halfUnit_le
  rw [abs_of_nonneg (by positivity)] at error
  linarith

end Width

/-! ## Middles of rows and columns -/

/-- A number that is rounded from a multiple of a side is close to it. -/
theorem IsSide.close {size number : Binary64} {exact : ℚ} (side : IsSide size)
    (rounds : number.Rounds exact) (finite : number.IsFinite) (bounded : |exact| ≤ 8 * size.toRat) :
    |number.toRat - exact| ≤ size.toRat / 2 ^ 48 := by
  have error := rounds.close finite
  have half_le := halfUnit_le
  have large := side.sixteenth_le
  linarith

namespace Cell

variable {size : Binary64} {count count' : Int} {tail tip : Cell}

/-- The middle of a row or column of the grid. -/
def middle (size : Binary64) (count : Int) : Binary64 :=
  sides count * size + size / two

theorem centerPoint_eq (size : Binary64) (cell : Cell) :
    cell.centerPoint size = { x := middle size cell.column, y := middle size cell.row } := rfl

theorem toRat_sides (nonneg : 0 ≤ count) : (sides count).toRat = count := by
  obtain ⟨steps, rfl⟩ := Int.eq_ofNat_of_zero_le nonneg
  rw [sides, Int.toNat_natCast, Nat.mul_comm, toRat_whole, Int.cast_natCast]

theorem toRat_two : two.toRat = 2 := by
  exact_mod_cast toRat_whole 2

theorem steps_bounds (side : IsSide size) (nonneg : 0 ≤ count) (le_seven : count ≤ 7) :
    0 ≤ count * size.toRat ∧ count * size.toRat ≤ 7 * size.toRat := by
  have size_nonneg : 0 ≤ size.toRat := by linarith [side.sixteenth_le]
  have count_nonneg : (0 : ℚ) ≤ count := by exact_mod_cast nonneg
  have count_le : (count : ℚ) ≤ 7 := by exact_mod_cast le_seven
  exact ⟨mul_nonneg count_nonneg size_nonneg, mul_le_mul_of_nonneg_right count_le size_nonneg⟩

theorem middle_close (side : IsSide size) (nonneg : 0 ≤ count) (le_seven : count ≤ 7)
    (finite : (middle size count).IsFinite) :
    |(middle size count).toRat - (count + 1 / 2) * size.toRat| ≤ size.toRat / 2 ^ 46 := by
  obtain ⟨steps_finite, half_finite⟩ := isFinite_of_add finite
  obtain ⟨steps_nonneg, steps_le⟩ := steps_bounds side nonneg le_seven
  have steps_rounds : (sides count * size).Rounds (count * size.toRat) := by
    have rounds : (sides count * size).Rounds ((sides count).toRat * size.toRat) :=
      rounds_mul trivial side.isFinite
    rwa [toRat_sides nonneg] at rounds
  have half_rounds : (size / two).Rounds (size.toRat / 2) := by
    have rounds : (size / two).Rounds (size.toRat / two.toRat) :=
      rounds_div side.isFinite trivial (by rw [toRat_two]; norm_num)
    rwa [toRat_two] at rounds
  -- the product, the half and the sum are each rounded once
  obtain ⟨steps_low, steps_high⟩ := abs_le.mp <| side.close steps_rounds steps_finite <| by
    rw [abs_of_nonneg steps_nonneg]
    linarith
  obtain ⟨half_low, half_high⟩ := abs_le.mp <| side.close half_rounds half_finite <| by
    rw [abs_of_nonneg (by linarith)]
    linarith
  obtain ⟨sum_low, sum_high⟩ := abs_le.mp <|
    side.close (rounds_add steps_finite half_finite) finite <| by
      rw [abs_le]
      constructor <;> linarith
  change |(sides count * size + size / two).toRat - _| ≤ _
  rw [abs_le]
  constructor <;> linarith

theorem middle_sub_close (side : IsSide size) (nonneg : 0 ≤ count) (le_seven : count ≤ 7)
    (nonneg' : 0 ≤ count') (le_seven' : count' ≤ 7)
    (finite : (middle size count' - middle size count).IsFinite) :
    |(middle size count' - middle size count).toRat - (count' * size.toRat - count * size.toRat)| ≤
      size.toRat / 2 ^ 44 := by
  obtain ⟨finite', finite_count⟩ := isFinite_of_sub finite
  obtain ⟨steps_nonneg, steps_le⟩ := steps_bounds side nonneg le_seven
  obtain ⟨steps_nonneg', steps_le'⟩ := steps_bounds side nonneg' le_seven'
  obtain ⟨low, high⟩ := abs_le.mp (middle_close side nonneg le_seven finite_count)
  obtain ⟨low', high'⟩ := abs_le.mp (middle_close side nonneg' le_seven' finite')
  obtain ⟨sub_low, sub_high⟩ := abs_le.mp <|
    side.close (rounds_sub finite' finite_count) finite <| by
      rw [abs_le]
      constructor <;> linarith
  rw [abs_le]
  constructor <;> linarith

/-- The middles of different rows or columns are apart by many units. -/
theorem units_middle_sub_ge (side : IsSide size) (nonneg : 0 ≤ count) (le_seven : count ≤ 7)
    (nonneg' : 0 ≤ count') (le_seven' : count' ≤ 7) (different : count ≠ count')
    {negative : Bool} {units : Nat}
    (result : middle size count' - middle size count = .finite negative units) :
    2 ^ 50 ≤ units := by
  have close := middle_sub_close side nonneg le_seven nonneg' le_seven' (by rw [result]; trivial)
  have large := side.sixteenth_le
  have steps_apart : size.toRat ≤ |count' * size.toRat - count * size.toRat| := by
    have one_le : (1 : ℚ) ≤ |(count' - count : ℚ)| := by
      exact_mod_cast Int.one_le_abs (sub_ne_zero.mpr different.symm)
    rw [← sub_mul, abs_mul, abs_of_nonneg (show 0 ≤ size.toRat by linarith)]
    exact le_mul_of_one_le_left (by linarith) one_le
  have distance_ge : 1 / 2 ^ 5 ≤ |(middle size count' - middle size count).toRat| := by
    have reversed := abs_sub_abs_le_abs_sub (count' * size.toRat - count * size.toRat)
      (middle size count' - middle size count).toRat
    rw [abs_sub_comm] at close
    linarith
  have units_ge : unitsPerOne ≤ 2 ^ 5 * units := by
    rw [result, abs_toRat_finite, le_div_iff₀ cast_unitsPerOne_pos] at distance_ge
    have scaled : (unitsPerOne : ℚ) ≤ 2 ^ 5 * units := by linarith
    exact_mod_cast scaled
  have scale_ge : 2 ^ 55 ≤ unitsPerOne := by decide +kernel
  omega

theorem column_ne_or_row_ne (different : tail ≠ tip) :
    tail.column ≠ tip.column ∨ tail.row ≠ tip.row := by
  obtain ⟨row, column⟩ := tail
  obtain ⟨row', column'⟩ := tip
  simp only [ne_eq, mk.injEq, not_and_or] at different
  exact different.symm

/-- An arrow between different cells has a length, and so it has corners. -/
theorem exists_outline (side : IsSide size) (tail_on : tail.OnGrid) (tip_on : tip.OnGrid)
    (different : tail ≠ tip) :
    ∃ corners,
      Arrow.outline size (tail.centerPoint size) (tip.centerPoint size) = .ok corners := by
  have long : (hypotenuse (middle size tip.column - middle size tail.column)
      (middle size tip.row - middle size tail.row)).isZero = false := by
    apply hypotenuse_isZero
    -- a difference that is infinite leaves a length that is not zero as well
    intro negative negative' x y dx dy
    refine ⟨max_lt (units_lt_of_add dx) (units_lt_of_add dy), le_max_iff.mpr ?_⟩
    rcases column_ne_or_row_ne different with columns | rows
    · exact Or.inl (units_middle_sub_ge side tail_on.column.1 tail_on.column.2 tip_on.column.1
        tip_on.column.2 columns dx)
    · exact Or.inr (units_middle_sub_ge side tail_on.row.1 tail_on.row.2 tip_on.row.1 tip_on.row.2
        rows dy)
  rw [Arrow.outline, centerPoint_eq, centerPoint_eq]
  simp only [long]
  exact ⟨_, rfl⟩

end Cell

/-! ## Drawing -/

theorem Shape.exists_arrowShape {size : Binary64} {tail tip : Cell} (side : IsSide size)
    (tail_on : tail.OnGrid) (tip_on : tip.OnGrid) :
    ∃ tag attributes, arrowShape size tail tip = .ok (tag, attributes) := by
  unfold arrowShape
  by_cases same : tail = tip
  · rw [if_pos same]
    exact ⟨_, _, rfl⟩
  · obtain ⟨corners, outlined⟩ := Cell.exists_outline side tail_on tip_on same
    rw [if_neg same, outlined]
    exact ⟨_, _, rfl⟩

namespace Diagram

open Square

variable {grid : Grid} {size : Binary64} {diagram : Diagram}

/-- A mark whose names are squares has a shape. -/
theorem exists_shape {mark : Mark} (sized : grid.width.squareSize = .ok size)
    (side : IsSide size) (names : ∀ name ∈ mark.names, IsName name) :
    ∃ element, shape grid mark = .ok element := by
  cases mark with
  | highlight name =>
      obtain ⟨square, named⟩ := exists_named_iff.mpr (names name (by simp [Mark.names]))
      obtain ⟨on_board, name_eq⟩ := named_eq_ok_iff.mp named
      exact ⟨_, shape_highlight_eq_ok_iff.mpr ⟨square, size, on_board, name_eq, sized, rfl⟩⟩
  | arrow startName finishName =>
      obtain ⟨start, start_named⟩ :=
        exists_named_iff.mpr (names startName (by simp [Mark.names]))
      obtain ⟨finish, finish_named⟩ :=
        exists_named_iff.mpr (names finishName (by simp [Mark.names]))
      have start_read := named_eq_ok_iff.mp start_named
      have finish_read := named_eq_ok_iff.mp finish_named
      obtain ⟨tag, attributes, shaped⟩ := Shape.exists_arrowShape side
        (grid.orientation.cell_onGrid start_read.1) (grid.orientation.cell_onGrid finish_read.1)
      exact ⟨_, shape_arrow_eq_ok_iff.mpr
        ⟨start, finish, size, tag, attributes, start_read, finish_read, sized, shaped, rfl⟩⟩

/-- A diagram whose names are squares is drawn as long as its width is below the limit. -/
theorem exists_svg (positive : 1 ≤ diagram.style.width)
    (small : diagram.style.width < Width.limit)
    (names : ∀ name ∈ Mark.allNames diagram.marks, IsName name) :
    ∃ markup, diagram.svg = .ok markup := by
  obtain ⟨size, sized, side⟩ := Width.exists_side positive small
  have grid_sized : diagram.grid.width.squareSize = .ok size := sized
  have each (kind : Mark → Bool) : ∃ elements,
      (diagram.marks.filter kind).mapM (shape diagram.grid) = .ok elements := by
    rw [exists_mapM_iff]
    intro mark mark_mem
    apply exists_shape grid_sized side
    intro name name_mem
    exact names name (List.mem_flatMap.mpr ⟨mark, List.mem_of_mem_filter mark_mem, name_mem⟩)
  obtain ⟨highlights, highlights_drawn⟩ := each isHighlight
  obtain ⟨arrows, arrows_drawn⟩ := each fun mark => !isHighlight mark
  have squares_drawn := Shape.squares_eq diagram.grid diagram.style.light diagram.style.dark
  rw [grid_sized] at squares_drawn
  have drawn : diagram.layers = .ok { squares := _, pieces := _, highlights, arrows } :=
    layers_eq_ok_iff.mpr ⟨squares_drawn, Shape.pieces_of_size grid_sized diagram.placement,
      mapM_eq_ok_iff.mp highlights_drawn, mapM_eq_ok_iff.mp arrows_drawn⟩
  exact ⟨_, svg_eq_ok_iff.mpr ⟨_, drawn, rfl⟩⟩

/-- Beyond the limit the width is the fault of every diagram. -/
theorem svg_of_limit_le (large : Width.limit ≤ diagram.style.width) :
    diagram.svg = .error (.geometry .widthTooLarge) := by
  have unsized : diagram.grid.width.squareSize = .error .widthTooLarge := by
    have large_count : Width.limit ≤ diagram.style.width.natAbs := by omega
    rw [grid, Width.squareSize_pixels, if_neg (Nat.not_lt.mpr large_count)]
  rw [svg, draw, layers, Shape.squares_eq, unsized]
  rfl

end Diagram
end ChessDrawing
