import ChessDrawing.Number.Length
import ChessDrawing.Proofs.Number.Near

/-!
# Lengths that are not zero

The halves of a double are close to it and to zero, so a running sum stays close to the sum of the
squares that were added, and the corrected root close to its root.  A vector one of whose
coordinates is not tiny therefore has a length that is not zero.
-/

namespace ChessDrawing
namespace Binary64

variable {number number' : Binary64}

/-! ## Halves -/

theorem near_whole (count : Nat) : (finite false (count * unitsPerOne)).Near count 0 :=
  ⟨trivial, by rw [toRat_whole, sub_self, abs_zero]⟩

theorem near_splitter : splitter.Near (2 ^ 27 + 1) 0 := by
  exact_mod_cast near_whole (2 ^ 27 + 1)

theorem near_one : one.Near 1 0 := by
  have near := near_whole 1
  rwa [Nat.one_mul, Nat.cast_one] at near

theorem near_two : two.Near 2 0 := by
  exact_mod_cast near_whole 2

/-- The leading half of a double is close to it, and the final half is close to zero. -/
theorem halves_near (finite : number.IsFinite) (size : |number.toRat| ≤ 2) :
    number.halves.high.Near number.toRat (1 / 2 ^ 20) ∧
      number.halves.low.Near 0 (1 / 2 ^ 19) := by
  have value := near_toRat finite
  generalize number.toRat = exact at *
  have factor_abs : |(2 ^ 27 + 1 : ℚ)| = 2 ^ 27 + 1 := abs_of_pos (by norm_num)
  have product_abs : |exact * (2 ^ 27 + 1)| = |exact| * (2 ^ 27 + 1) := by
    rw [abs_mul, factor_abs]
  have rest_abs : |exact * (2 ^ 27 + 1) - exact| ≤ 2 ^ 28 := by
    have power_abs : |(2 ^ 27 : ℚ)| = 2 ^ 27 := abs_of_pos (by norm_num)
    rw [mul_add, mul_one, add_sub_cancel_right, abs_mul, power_abs]
    linarith
  have product : (number * splitter).Near (exact * (2 ^ 27 + 1)) (1 / 2 ^ 22) := by
    refine (value.mul near_splitter (2 ^ 30) ?_ (by norm_num) (by norm_num)).mono ?_
    · rw [factor_abs]
      linarith
    · norm_num
  have rest : (number * splitter - number).Near (exact * (2 ^ 27 + 1) - exact) (1 / 2 ^ 21) := by
    refine (product.sub value (2 ^ 30) ?_ (by norm_num) (by norm_num)).mono ?_
    · rw [product_abs]
      linarith
    · norm_num
  have high : number.halves.high.Near exact (1 / 2 ^ 20) := by
    refine (product.sub rest (2 ^ 30) ?_ (by norm_num) (by norm_num)).congr ?_ ?_
    · rw [product_abs]
      generalize exact * (2 ^ 27 + 1) - exact = difference at rest_abs ⊢
      linarith
    · ring
    · norm_num
  refine ⟨high, ?_⟩
  refine (value.sub high (2 ^ 5) ?_ (by norm_num) (by norm_num)).congr ?_ ?_
  · linarith
  · ring
  · norm_num

/-! ## Running sums -/

namespace RunningSum

/-- The total of a sum is near a value, and what it lost is near zero. -/
structure Near (sum : RunningSum) (value error lostError : ℚ) : Prop where
  /-- The total is near the value. -/
  total : sum.total.Near value error
  /-- What is lost of the large terms is near zero. -/
  large : sum.large.Near 0 lostError
  /-- What is lost of the middle terms is near zero. -/
  middle : sum.middle.Near 0 lostError
  /-- What is lost of the small terms is near zero. -/
  small : sum.small.Near 0 lostError

variable {sum : RunningSum} {term part : Binary64} {value exact error error' lostError : ℚ}

theorem empty_near : empty.Near 1 0 0 :=
  { total := near_one
    large := near_finite_zero false
    middle := near_finite_zero false
    small := near_finite_zero false }

theorem total_near (before : number.Near value error) (term_near : term.Near exact error')
    (size : |value| + |exact| + error + error' ≤ 16) :
    (number + term).Near (value + exact) (error + error' + 1 / 2 ^ 40) :=
  (before.add term_near (2 ^ 12) (by linarith) (by norm_num) (by norm_num)).mono
    (by norm_num)

/-- What is lost of a term is near zero, and so is the sum of what was lost before and it. -/
theorem part_near (before : number.Near value error) (term_near : term.Near exact error')
    (part_near : part.Near 0 lostError) (size : |value| + |exact| + error + error' ≤ 16)
    (lost_size : lostError ≤ 16) :
    (part + lost number (number + term) term).Near 0
      (lostError + 2 * error + 2 * error' + 4 / 2 ^ 40) := by
  have error_nonneg := before.error_nonneg
  have error_nonneg' := term_near.error_nonneg
  have value_nonneg := abs_nonneg value
  have exact_nonneg := abs_nonneg exact
  have sum_abs := abs_add_le value exact
  have difference : (number - (number + term)).Near (value - (value + exact))
      (2 * error + error' + 2 / 2 ^ 40) := by
    refine (before.sub (total_near before term_near size) (2 ^ 12) ?_ (by norm_num)
      (by norm_num)).mono ?_
    · linarith
    · linarith
  have lost_near : (lost number (number + term) term).Near 0
      (2 * error + 2 * error' + 3 / 2 ^ 40) := by
    refine (difference.add term_near (2 ^ 12) ?_ (by norm_num) (by norm_num)).congr ?_ ?_
    · rw [sub_add_cancel_left, abs_neg]
      linarith
    · ring
    · linarith
  refine (part_near.add lost_near (2 ^ 12) ?_ (by norm_num) (by norm_num)).congr ?_ ?_
  · rw [abs_zero]
    linarith
  · ring
  · linarith

/-- What is lost of other terms stays near zero. -/
theorem kept_near (before : number.Near value error) (term_near : term.Near exact error')
    (part_near : part.Near 0 lostError) :
    part.Near 0 (lostError + 2 * error + 2 * error' + 4 / 2 ^ 40) :=
  part_near.mono (by linarith [before.error_nonneg, term_near.error_nonneg])

theorem Near.addLarge (near : sum.Near value error lostError) (term_near : term.Near exact error')
    (size : |value| + |exact| + error + error' ≤ 16) (lost_size : lostError ≤ 16) :
    (sum.addLarge term).Near (value + exact) (error + error' + 1 / 2 ^ 40)
      (lostError + 2 * error + 2 * error' + 4 / 2 ^ 40) where
  total := total_near near.total term_near size
  large := part_near near.total term_near near.large size lost_size
  middle := kept_near near.total term_near near.middle
  small := kept_near near.total term_near near.small

theorem Near.addMiddle (near : sum.Near value error lostError)
    (term_near : term.Near exact error') (size : |value| + |exact| + error + error' ≤ 16)
    (lost_size : lostError ≤ 16) :
    (sum.addMiddle term).Near (value + exact) (error + error' + 1 / 2 ^ 40)
      (lostError + 2 * error + 2 * error' + 4 / 2 ^ 40) where
  total := total_near near.total term_near size
  large := kept_near near.total term_near near.large
  middle := part_near near.total term_near near.middle size lost_size
  small := kept_near near.total term_near near.small

theorem Near.addSmall (near : sum.Near value error lostError)
    (term_near : term.Near exact error') (size : |value| + |exact| + error + error' ≤ 16)
    (lost_size : lostError ≤ 16) :
    (sum.addSmall term).Near (value + exact) (error + error' + 1 / 2 ^ 40)
      (lostError + 2 * error + 2 * error' + 4 / 2 ^ 40) where
  total := total_near near.total term_near size
  large := kept_near near.total term_near near.large
  middle := kept_near near.total term_near near.middle
  small := part_near near.total term_near near.small size lost_size

/-! ## Terms of squares -/

variable {high low factor : Binary64} {leading : ℚ}

/-- The leading term of a square, with either sign. -/
theorem leading_term_near (factor_near : factor.Near leading (1 / 2 ^ 20))
    (high_near : high.Near exact (1 / 2 ^ 20)) (factor_size : |leading| ≤ 2)
    (size : |exact| ≤ 2) : (factor * high).Near (leading * exact) (1 / 2 ^ 16) := by
  refine (factor_near.mul high_near (2 ^ 5) ?_ (by norm_num) (by norm_num)).mono ?_
  · calc
      (|leading| + 1 / 2 ^ 20) * (|exact| + 1 / 2 ^ 20) ≤ (2 + 1 / 2 ^ 20) * (2 + 1 / 2 ^ 20) := by
        gcongr
      _ ≤ 2 ^ 5 := by norm_num
  · linarith

/-- The middle term of a square, with either sign, is close to zero. -/
theorem middle_term_near (factor_near : factor.Near leading 0)
    (high_near : high.Near exact (1 / 2 ^ 20)) (low_near : low.Near 0 (1 / 2 ^ 19))
    (factor_size : |leading| ≤ 2) (size : |exact| ≤ 2) :
    (factor * high * low).Near 0 (1 / 2 ^ 16) := by
  have product_abs : |leading * exact| ≤ 4 := by
    rw [abs_mul]
    calc
      |leading| * |exact| ≤ 2 * 2 := by gcongr
      _ = 4 := by norm_num
  have product : (factor * high).Near (leading * exact) (1 / 2 ^ 18) := by
    refine (factor_near.mul high_near (2 ^ 5) ?_ (by norm_num) (by norm_num)).mono ?_
    · calc
        (|leading| + 0) * (|exact| + 1 / 2 ^ 20) ≤ (2 + 0) * (2 + 1 / 2 ^ 20) := by gcongr
        _ ≤ 2 ^ 5 := by norm_num
    · linarith
  refine (product.mul low_near (2 ^ 5) ?_ (by norm_num) (by norm_num)).congr (mul_zero _) ?_
  · rw [abs_zero]
    linarith
  · rw [abs_zero]
    linarith

/-- The final term of a square, with either sign, is close to zero. -/
theorem final_term_near (factor_near : factor.Near 0 (1 / 2 ^ 19))
    (low_near : low.Near 0 (1 / 2 ^ 19)) : (factor * low).Near 0 (1 / 2 ^ 16) := by
  refine (factor_near.mul low_near (2 ^ 5) ?_ (by norm_num) (by norm_num)).congr (mul_zero _) ?_
  · rw [abs_zero]
    norm_num
  · rw [abs_zero]
    norm_num

/-- Adding a square moves a sum by the square. -/
theorem Near.addSquare (near : sum.Near value error lostError) (finite : number.IsFinite)
    (size : |number.toRat| ≤ 2) (value_size : |value| ≤ 8) (error_size : error ≤ 1)
    (lost_size : lostError ≤ 1) :
    (sum.addSquare number).Near (value + number.toRat ^ 2) (error + 3 / 2 ^ 16)
      (lostError + 4 * error + 8 / 2 ^ 16) := by
  obtain ⟨high_near, low_near⟩ := halves_near finite size
  have leading := leading_term_near high_near high_near size size
  have middle := middle_term_near near_two high_near low_near (by norm_num) size
  have final := final_term_near low_near low_near
  have error_nonneg := near.total.error_nonneg
  have square_abs : |number.toRat * number.toRat| ≤ 4 := by
    rw [abs_mul]
    calc
      |number.toRat| * |number.toRat| ≤ 2 * 2 := by gcongr
      _ = 4 := by norm_num
  have first := near.addLarge leading (by linarith) (by linarith)
  have moved_abs := abs_add_le value (number.toRat * number.toRat)
  have second := first.addMiddle middle (by rw [abs_zero]; linarith) (by linarith)
  have lost := second.small.add final (2 ^ 5) (by rw [abs_zero]; linarith) (by norm_num)
    (by norm_num)
  have lost_le : lostError + 2 * error + 2 * (1 / 2 ^ 16) + 4 / 2 ^ 40 +
      2 * (error + 1 / 2 ^ 16 + 1 / 2 ^ 40) + 2 * (1 / 2 ^ 16) + 4 / 2 ^ 40 + 1 / 2 ^ 16 +
        2 ^ 5 / 2 ^ 52 ≤ lostError + 4 * error + 8 / 2 ^ 16 := by
    linarith
  have kept_le : lostError + 2 * error + 2 * (1 / 2 ^ 16) + 4 / 2 ^ 40 +
      2 * (error + 1 / 2 ^ 16 + 1 / 2 ^ 40) + 2 * (1 / 2 ^ 16) + 4 / 2 ^ 40 ≤
        lostError + 4 * error + 8 / 2 ^ 16 := by
    linarith
  exact
    { total := second.total.congr (by ring) (by linarith)
      large := second.large.mono kept_le
      middle := second.middle.mono kept_le
      small := lost.congr (add_zero 0) lost_le }

/-- Subtracting a square moves a sum by the square. -/
theorem Near.subtractSquare (near : sum.Near value error lostError) (finite : number.IsFinite)
    (size : |number.toRat| ≤ 2) (value_size : |value| ≤ 8) (error_size : error ≤ 1)
    (lost_size : lostError ≤ 1) :
    (sum.subtractSquare number).Near (value - number.toRat ^ 2) (error + 4 / 2 ^ 16)
      (lostError + 6 * error + 13 / 2 ^ 16) := by
  obtain ⟨high_near, low_near⟩ := halves_near finite size
  have leading :=
    leading_term_near high_near.neg high_near (by rwa [abs_neg]) size
  have middle :=
    middle_term_near near_two.neg high_near low_near (by rw [abs_neg]; norm_num) size
  have final := final_term_near (low_near.neg.congr neg_zero le_rfl) low_near
  have error_nonneg := near.total.error_nonneg
  have square_abs : |-number.toRat * number.toRat| ≤ 4 := by
    rw [abs_mul, abs_neg]
    calc
      |number.toRat| * |number.toRat| ≤ 2 * 2 := by gcongr
      _ = 4 := by norm_num
  have moved_abs := abs_add_le value (-number.toRat * number.toRat)
  have first := near.addLarge leading (by linarith) (by linarith)
  have second := first.addMiddle middle (by rw [abs_zero]; linarith) (by linarith)
  have third := second.addSmall final (by simp only [abs_zero, add_zero]; linarith) (by linarith)
  have lost_le : lostError + 2 * error + 2 * (1 / 2 ^ 16) + 4 / 2 ^ 40 +
      2 * (error + 1 / 2 ^ 16 + 1 / 2 ^ 40) + 2 * (1 / 2 ^ 16) + 4 / 2 ^ 40 +
        2 * (error + 1 / 2 ^ 16 + 1 / 2 ^ 40 + 1 / 2 ^ 16 + 1 / 2 ^ 40) + 2 * (1 / 2 ^ 16) +
          4 / 2 ^ 40 ≤ lostError + 6 * error + 13 / 2 ^ 16 := by
    linarith
  exact
    { total := third.total.congr (by ring) (by linarith)
      large := third.large.mono lost_le
      middle := third.middle.mono lost_le
      small := third.small.mono lost_le }

/-- The value of a sum is near the sum of its terms, without the one it starts at. -/
theorem Near.value_near (near : sum.Near value error lostError) (value_size : |value| ≤ 8)
    (error_size : error ≤ 1) (lost_size : lostError ≤ 1) :
    sum.value.Near (value - 1) (error + 3 * lostError + 4 / 2 ^ 40) := by
  have moved_abs := abs_sub value 1
  have error_nonneg := near.total.error_nonneg
  have one_abs : |(1 : ℚ)| = 1 := abs_one
  have moved : (sum.total - one).Near (value - 1) (error + 1 / 2 ^ 40) :=
    (near.total.sub near_one (2 ^ 12) (by linarith) (by norm_num) (by norm_num)).mono (by linarith)
  have both : (sum.large + sum.middle).Near 0 (2 * lostError + 1 / 2 ^ 40) :=
    (near.large.add near.middle (2 ^ 12) (by rw [abs_zero]; linarith) (by norm_num)
      (by norm_num)).congr (add_zero 0) (by linarith)
  have all : (sum.large + sum.middle + sum.small).Near 0 (3 * lostError + 2 / 2 ^ 40) :=
    (both.add near.small (2 ^ 12) (by rw [abs_zero]; linarith) (by norm_num)
      (by norm_num)).congr (add_zero 0) (by linarith)
  exact (moved.add all (2 ^ 12) (by rw [abs_zero]; linarith) (by norm_num) (by norm_num)).congr
    (add_zero _) (by linarith)

end RunningSum

/-! ## Lengths -/

/-- The squares of a vector are summed with little error. -/
theorem squares_near {x y : Binary64} (x_finite : x.IsFinite) (y_finite : y.IsFinite)
    (x_size : |x.toRat| ≤ 11 / 10) (y_size : |y.toRat| ≤ 11 / 10) :
    ((RunningSum.empty.addSquare x).addSquare y).Near (1 + x.toRat ^ 2 + y.toRat ^ 2)
      (6 / 2 ^ 16) (28 / 2 ^ 16) := by
  have square_le : x.toRat ^ 2 ≤ (11 / 10) ^ 2 := by
    rw [← sq_abs]
    gcongr
  have square_nonneg := sq_nonneg x.toRat
  have one_abs : |(1 : ℚ)| ≤ 8 := by norm_num
  have first := RunningSum.empty_near.addSquare x_finite (by linarith) one_abs (by norm_num)
    (by norm_num)
  have first_abs : |1 + x.toRat ^ 2| ≤ 8 := by
    rw [abs_le]
    constructor <;> linarith
  have second := first.addSquare y_finite (by linarith) first_abs (by norm_num) (by norm_num)
  exact
    { total := second.total.mono (by norm_num)
      large := second.large.mono (by norm_num)
      middle := second.middle.mono (by norm_num)
      small := second.small.mono (by norm_num) }

theorem square_sum_bounds {x y : ℚ} (x_size : |x| ≤ 11 / 10) (y_size : |y| ≤ 11 / 10)
    (large : 2 / 5 ≤ |x| ∨ 2 / 5 ≤ |y|) : (2 / 5) ^ 2 ≤ x ^ 2 + y ^ 2 ∧ x ^ 2 + y ^ 2 ≤ 3 := by
  have x_square_le : |x| ^ 2 ≤ (11 / 10) ^ 2 := by gcongr
  have y_square_le : |y| ^ 2 ≤ (11 / 10) ^ 2 := by gcongr
  rw [← sq_abs x, ← sq_abs y]
  refine ⟨?_, by linarith⟩
  have x_square_nonneg := sq_nonneg |x|
  have y_square_nonneg := sq_nonneg |y|
  obtain x_large | y_large := large
  · have x_square_ge : (2 / 5) ^ 2 ≤ |x| ^ 2 := by gcongr
    linarith
  · have y_square_ge : (2 / 5) ^ 2 ≤ |y| ^ 2 := by gcongr
    linarith

/-- The root of a number that is near a value of moderate size, with what its square leaves. -/
theorem root_bounds {value : ℚ} (near : number.Near value (1 / 500))
    (value_ge : (2 / 5) ^ 2 ≤ value) (value_le : value ≤ 3) :
    number.root.IsFinite ∧ 3 / 8 ≤ number.root.toRat ∧ number.root.toRat ≤ 2 ∧
      |value - number.root.toRat ^ 2| ≤ 1 / 200 := by
  obtain ⟨low, high⟩ := abs_le.mp near.close
  have positive : 0 < number.toRat := by linarith
  obtain ⟨finite, nonneg, square⟩ := root_close positive (by linarith)
  obtain ⟨square_low, square_high⟩ := abs_le.mp square
  have square_le : number.root.toRat ^ 2 ≤ 2 ^ 2 := by linarith
  have square_ge : (3 / 8) ^ 2 ≤ number.root.toRat ^ 2 := by linarith
  refine ⟨finite, ?_, ?_, ?_⟩
  · exact le_of_sq_le_sq square_ge nonneg
  · exact le_of_sq_le_sq square_le (by norm_num)
  · rw [abs_le]
    constructor <;> linarith

/-- A small number divided by twice a root is small. -/
theorem correction_near {root : Binary64} (finite : number.IsFinite)
    (small : |number.toRat| ≤ 1 / 80) (root_finite : root.IsFinite)
    (root_ge : 3 / 8 ≤ root.toRat) (root_le : root.toRat ≤ 2) :
    (number / (two * root)).Near 0 (1 / 40) := by
  have two_abs : |(2 : ℚ)| = 2 := abs_two
  have root_abs : |root.toRat| = root.toRat := abs_of_nonneg (by linarith)
  have double_near : (two * root).Near (2 * root.toRat) (1 / 2 ^ 40) := by
    refine (near_two.mul (near_toRat root_finite) (2 ^ 5) ?_ (by norm_num) (by norm_num)).mono ?_
    · rw [two_abs, root_abs]
      linarith
    · norm_num
  have double_ge : 7 / 10 ≤ (two * root).toRat := by
    linarith [(abs_le.mp double_near.close).1]
  have quotient_small : |number.toRat / (two * root).toRat| ≤ 1 / 50 := by
    rw [abs_div, abs_of_pos (show 0 < (two * root).toRat by linarith), div_le_iff₀ (by linarith)]
    linarith
  have quotient_near : (number / (two * root)).Near (number.toRat / (two * root).toRat)
      (2 / 2 ^ 52) :=
    (rounds_div finite double_near.isFinite (by linarith)).near (by linarith) (by norm_num)
      (by norm_num)
  refine ⟨quotient_near.isFinite, ?_⟩
  have quotient_abs := quotient_near.abs_toRat_le
  rw [sub_zero]
  linarith

/-- The length of a vector whose coordinates are at most about one and not both tiny is not tiny. -/
theorem scaledLength_ge {x y : Binary64} (x_finite : x.IsFinite) (y_finite : y.IsFinite)
    (x_size : |x.toRat| ≤ 11 / 10) (y_size : |y.toRat| ≤ 11 / 10)
    (large : 2 / 5 ≤ |x.toRat| ∨ 2 / 5 ≤ |y.toRat|) :
    (scaledLength x y).IsFinite ∧ 1 / 4 ≤ (scaledLength x y).toRat := by
  have squares := squares_near x_finite y_finite x_size y_size
  obtain ⟨square_ge, square_le⟩ := square_sum_bounds x_size y_size large
  have squares_abs : |1 + x.toRat ^ 2 + y.toRat ^ 2| ≤ 8 := by
    rw [abs_le]
    constructor <;> linarith
  have sum_near : ((RunningSum.empty.addSquare x).addSquare y).value.Near
      (x.toRat ^ 2 + y.toRat ^ 2) (1 / 500) :=
    (squares.value_near squares_abs (by norm_num) (by norm_num)).congr (by ring) (by norm_num)
  rw [scaledLength]
  -- from here on only the distance of the sum from the exact one matters
  generalize (RunningSum.empty.addSquare x).addSquare y = sum at *
  obtain ⟨root_finite, root_ge, root_le, rest_small⟩ := root_bounds sum_near square_ge square_le
  generalize sum.value.root = root at *
  have root_abs : |root.toRat| ≤ 2 := by rwa [abs_of_nonneg (by linarith)]
  have rest := squares.subtractSquare root_finite root_abs squares_abs (by norm_num) (by norm_num)
  have rest_abs : |1 + x.toRat ^ 2 + y.toRat ^ 2 - root.toRat ^ 2| ≤ 8 := by
    obtain ⟨rest_low, rest_high⟩ := abs_le.mp rest_small
    rw [abs_le]
    constructor <;> linarith
  have rest_near : (sum.subtractSquare root).value.Near
      (x.toRat ^ 2 + y.toRat ^ 2 - root.toRat ^ 2) (1 / 200) :=
    (rest.value_near rest_abs (by norm_num) (by norm_num)).congr (by ring) (by norm_num)
  have correction :=
    correction_near rest_near.isFinite (by linarith [rest_near.abs_toRat_le]) root_finite root_ge
      root_le
  have length_near := (near_toRat root_finite).add correction (2 ^ 5) (by rw [abs_zero]; linarith)
    (by norm_num) (by norm_num)
  refine ⟨length_near.isFinite, ?_⟩
  have length_low := (abs_le.mp length_near.close).1
  linarith

theorem log2_lt_of_lt_pow {units exponent : Nat} (positive : 0 < exponent)
    (small : units < 2 ^ exponent) : units.log2 < exponent := by
  by_cases nonzero : units = 0
  · subst nonzero
    rwa [Nat.log2_zero]
  · exact (Nat.log2_lt nonzero).mpr small

theorem log2_lt_of_lt_unitLimit {units : Nat} (in_range : units < unitLimit) :
    units.log2 < 1024 + 1074 := by
  have limit_eq : unitLimit = 2 ^ (1024 + 1074) := by decide +kernel
  rw [limit_eq] at in_range
  exact log2_lt_of_lt_pow (by omega) in_range

theorem scale_mul_pow {exponent : Nat} (le : exponent ≤ 2147) :
    Nat.pow 2 (2147 - exponent) * 2 ^ (exponent + 1) = unitsPerOne * unitsPerOne := by
  have sum_eq : 2147 - exponent + (exponent + 1) = 1074 + 1074 := by omega
  have scale_eq : 2 ^ (1074 + 1074) = unitsPerOne * unitsPerOne := by decide +kernel
  calc
    Nat.pow 2 (2147 - exponent) * 2 ^ (exponent + 1) = 2 ^ (2147 - exponent + (exponent + 1)) :=
      (Nat.pow_add 2 _ _).symm
    _ = 2 ^ (1074 + 1074) := congrArg (2 ^ ·) sum_eq
    _ = unitsPerOne * unitsPerOne := scale_eq

/-- Coordinates are scaled to the power of two above the larger one. -/
theorem scaled_near {units larger : Nat} (le_larger : units ≤ larger)
    (in_range : larger < unitLimit) :
    (finite false units * finite false (Nat.pow 2 (2147 - larger.log2))).Near
      (units / 2 ^ (larger.log2 + 1)) (1 / 2 ^ 40) := by
  have log2_lt := log2_lt_of_lt_unitLimit in_range
  have scale_eq : ((Nat.pow 2 (2147 - larger.log2) : Nat) : ℚ) * 2 ^ (larger.log2 + 1) =
      unitsPerOne * unitsPerOne := by
    exact_mod_cast scale_mul_pow (show larger.log2 ≤ 2147 by omega)
  have power_pos : (0 : ℚ) < 2 ^ (larger.log2 + 1) := by positivity
  have exact_eq : (finite false units).toRat *
      (finite false (Nat.pow 2 (2147 - larger.log2))).toRat = units / 2 ^ (larger.log2 + 1) := by
    rw [toRat_positive, toRat_positive, div_mul_div_comm, ← scale_eq, mul_comm (units : ℚ),
      mul_div_mul_left]
    exact_mod_cast (Nat.two_pow_pos (2147 - larger.log2)).ne'
  have size : |(units : ℚ) / 2 ^ (larger.log2 + 1)| ≤ 1 := by
    have units_lt : (units : ℚ) ≤ 2 ^ (larger.log2 + 1) := by
      exact_mod_cast le_larger.trans Nat.lt_log2_self.le
    rw [abs_of_nonneg (by positivity), div_le_one power_pos]
    exact units_lt
  have rounds : (finite false units * finite false (Nat.pow 2 (2147 - larger.log2))).Rounds
      ((finite false units).toRat * (finite false (Nat.pow 2 (2147 - larger.log2))).toRat) :=
    rounds_mul trivial trivial
  rw [exact_eq] at rounds
  exact (rounds.near size le_rfl (by norm_num)).mono (by norm_num)

/-- A length that is not tiny does not vanish when it is scaled back. -/
theorem isZero_div_eq_false {length : Binary64} {scale : Nat} (finite : length.IsFinite)
    (large : 1 / 4 ≤ length.toRat) (scale_pos : 0 < scale)
    (scale_le : 4 * scale ≤ unitsPerOne * unitsPerOne) :
    (length / .finite false scale).isZero = false := by
  obtain ⟨negative, units, rfl⟩ := exists_units_of_isFinite finite
  have units_ge : unitsPerOne ≤ 4 * units := by
    have size := large.trans (le_abs_self _)
    rw [abs_toRat_finite, le_div_iff₀ cast_unitsPerOne_pos] at size
    have scaled : (unitsPerOne : ℚ) ≤ 4 * units := by linarith
    exact_mod_cast scaled
  have numerator_ge : scale ≤ unitsPerOne * units := by
    have product := Nat.mul_le_mul_left unitsPerOne units_ge
    rw [Nat.mul_left_comm] at product
    omega
  have rounded_pos : roundUnits (unitsPerOne * units) scale ≠ 0 := by
    intro zero
    have error := Number.abs_significant_sub_le 52 (unitsPerOne * units) scale_pos
    have quotient_ge : (1 : ℚ) ≤ ((unitsPerOne * units : Nat) : ℚ) / scale := by
      rw [one_le_div (by exact_mod_cast scale_pos)]
      exact_mod_cast numerator_ge
    rw [roundUnits] at zero
    rw [zero, Nat.cast_zero, zero_sub, abs_neg] at error
    have quotient_le := (le_abs_self _).trans error
    linarith
  change (div _ _).isZero = false
  rw [div, if_neg scale_pos.ne', rounded, ofUnits]
  split
  · exact beq_eq_false_iff_ne.mpr rounded_pos
  · rfl

/-- A coordinate in units of the power of two above the larger one. -/
theorem share_bounds {units larger : Nat} (le_larger : units ≤ larger) (nonzero : larger ≠ 0) :
    (0 : ℚ) ≤ units / 2 ^ (larger.log2 + 1) ∧ (units : ℚ) / 2 ^ (larger.log2 + 1) ≤ 1 ∧
      (units = larger → 1 / 2 ≤ (units : ℚ) / 2 ^ (larger.log2 + 1)) := by
  have power_pos : (0 : ℚ) < 2 ^ (larger.log2 + 1) := by positivity
  refine ⟨by positivity, ?_, ?_⟩
  · rw [div_le_one power_pos]
    exact_mod_cast le_larger.trans Nat.lt_log2_self.le
  · rintro rfl
    have power_le : (2 ^ units.log2 : ℚ) ≤ units := by exact_mod_cast Nat.log2_self_le nonzero
    rw [le_div_iff₀ power_pos, pow_succ]
    linarith

theorem Near.abs_toRat_ge_of_half {value : ℚ} (near : number.Near value (1 / 2 ^ 40))
    (half_le : 1 / 2 ≤ value) : 2 / 5 ≤ |number.toRat| := by
  have low := (abs_le.mp near.close).1
  have le_size := le_abs_self number.toRat
  linarith

/-- A vector with a coordinate of many units has a length that is not zero. -/
theorem unitLength_isZero {x y : Nat} (in_range : max x y < unitLimit)
    (large : 2 ^ 50 ≤ max x y) : (unitLength x y).isZero = false := by
  have larger_ne : max x y ≠ 0 := by
    intro zero
    rw [zero] at large
    omega
  have log2_ge : 50 ≤ (max x y).log2 := (Nat.le_log2 larger_ne).mpr large
  have log2_lt := log2_lt_of_lt_unitLimit in_range
  have x_near := scaled_near (le_max_left x y) in_range
  have y_near := scaled_near (le_max_right x y) in_range
  obtain ⟨x_nonneg, x_le, x_ge⟩ := share_bounds (le_max_left x y) larger_ne
  obtain ⟨y_nonneg, y_le, y_ge⟩ := share_bounds (le_max_right x y) larger_ne
  have x_size := x_near.abs_toRat_le
  have y_size := y_near.abs_toRat_le
  rw [abs_of_nonneg x_nonneg] at x_size
  rw [abs_of_nonneg y_nonneg] at y_size
  have one_large :
      2 / 5 ≤ |(finite false x * finite false (Nat.pow 2 (2147 - (max x y).log2))).toRat| ∨
        2 / 5 ≤ |(finite false y * finite false (Nat.pow 2 (2147 - (max x y).log2))).toRat| := by
    obtain x_larger | y_larger := max_choice x y
    · exact Or.inl (x_near.abs_toRat_ge_of_half (x_ge x_larger.symm))
    · exact Or.inr (y_near.abs_toRat_ge_of_half (y_ge y_larger.symm))
  obtain ⟨length_finite, length_ge⟩ :=
    scaledLength_ge x_near.isFinite y_near.isFinite (by linarith) (by linarith) one_large
  have scale_le : 4 * Nat.pow 2 (2147 - (max x y).log2) ≤ unitsPerOne * unitsPerOne := by
    have power_ge : 2 ^ 2 ≤ 2 ^ ((max x y).log2 + 1) :=
      Nat.pow_le_pow_right Nat.two_pos (by omega)
    have product := Nat.mul_le_mul_left (Nat.pow 2 (2147 - (max x y).log2)) power_ge
    rw [scale_mul_pow (by omega)] at product
    omega
  rw [unitLength]
  simp only [if_neg larger_ne, if_neg (Nat.not_lt.mpr log2_ge)]
  exact isZero_div_eq_false length_finite length_ge (Nat.two_pow_pos _) scale_le

/-- A vector has a length that is not zero, unless both its coordinates have few units. -/
theorem hypotenuse_isZero {dx dy : Binary64}
    (large : ∀ negative negative' x y, dx = .finite negative x → dy = .finite negative' y →
      max x y < unitLimit ∧ 2 ^ 50 ≤ max x y) :
    (hypotenuse dx dy).isZero = false := by
  cases dx with
  | finite negative x =>
      cases dy with
      | finite negative' y =>
          obtain ⟨in_range, large⟩ := large negative negative' x y rfl rfl
          exact unitLength_isZero in_range large
      | infinite negative' => rfl
      | nan => rfl
  | infinite negative => rfl
  | nan => cases dy <;> rfl

end Binary64
end ChessDrawing
