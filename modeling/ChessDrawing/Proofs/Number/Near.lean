import ChessDrawing.Proofs.Number.Arithmetic

/-!
# Enclosures of doubles

A finite double near a rational number, with a bound on the distance.  The operations of arithmetic
keep numbers near their exact results; rounding adds a share of any bound on the size of the result.
-/

namespace ChessDrawing
namespace Binary64

/-- The number is finite and within an error of a rational number. -/
structure Near (number : Binary64) (value error : ℚ) : Prop where
  /-- The number is finite. -/
  isFinite : number.IsFinite
  /-- The distance is at most the error. -/
  close : |number.toRat - value| ≤ error

variable {left right number : Binary64} {value value' error error' : ℚ}

theorem near_toRat (finite : number.IsFinite) : number.Near number.toRat 0 :=
  ⟨finite, by rw [sub_self, abs_zero]⟩

theorem Near.mono (near : number.Near value error) (le : error ≤ error') :
    number.Near value error' :=
  ⟨near.isFinite, near.close.trans le⟩

theorem Near.congr (near : number.Near value error) (same : value = value')
    (le : error ≤ error') : number.Near value' error' :=
  same ▸ near.mono le

theorem Near.error_nonneg (near : number.Near value error) : 0 ≤ error :=
  (abs_nonneg _).trans near.close

/-- The size of a number near a value. -/
theorem Near.abs_toRat_le (near : number.Near value error) : |number.toRat| ≤ |value| + error := by
  calc
    |number.toRat| = |value + (number.toRat - value)| := by rw [add_sub_cancel]
    _ ≤ |value| + |number.toRat - value| := abs_add_le _ _
    _ ≤ |value| + error := by linarith [near.close]

theorem Near.neg (near : number.Near value error) : (-number).Near (-value) error := by
  refine ⟨isFinite_neg.mpr near.isFinite, ?_⟩
  rw [toRat_neg, ← neg_sub', abs_neg]
  exact near.close

theorem near_finite_zero (negative : Bool) : (finite negative 0).Near 0 0 :=
  ⟨trivial, by simp [toRat_finite]⟩

theorem halfUnit_le : halfUnit ≤ 1 / 2 ^ 53 := by
  have scale_ge : (2 ^ 53 : ℚ) ≤ unitsPerOne := by
    have units_ge : 2 ^ 53 ≤ unitsPerOne := by decide +kernel
    exact_mod_cast units_ge
  rw [halfUnit, div_div, div_le_div_iff₀ (by positivity) (by positivity)]
  linarith

/-- Rounding a number of bounded size changes it little. -/
theorem Rounds.near {exact bound : ℚ} (rounds : number.Rounds exact) (bounded : |exact| ≤ bound)
    (one_le : 1 ≤ bound) (small : bound ≤ 2 ^ 200) : number.Near exact (bound / 2 ^ 52) := by
  have finite := rounds.isFinite (bounded.trans small)
  refine ⟨finite, (rounds.close finite).trans ?_⟩
  have half_le := halfUnit_le
  linarith

/-- A rounded number near an exact result is near what the exact result is near to. -/
theorem Rounds.near_of_close {exact bound : ℚ} (rounds : number.Rounds exact)
    (close : |exact - value| ≤ error) (bounded : |value| + error ≤ bound) (one_le : 1 ≤ bound)
    (small : bound ≤ 2 ^ 200) : number.Near value (error + bound / 2 ^ 52) := by
  have size : |exact| ≤ bound := by
    calc
      |exact| = |value + (exact - value)| := by rw [add_sub_cancel]
      _ ≤ |value| + |exact - value| := abs_add_le _ _
      _ ≤ bound := by linarith
  have near := rounds.near size one_le small
  refine ⟨near.isFinite, ?_⟩
  calc
    |number.toRat - value| = |(exact - value) + (number.toRat - exact)| := by
      congr 1
      ring
    _ ≤ |exact - value| + |number.toRat - exact| := abs_add_le _ _
    _ ≤ error + bound / 2 ^ 52 := add_le_add close near.close

theorem Near.add (left_near : left.Near value error) (right_near : right.Near value' error')
    (bound : ℚ) (bounded : |value| + |value'| + error + error' ≤ bound) (one_le : 1 ≤ bound)
    (small : bound ≤ 2 ^ 200) :
    (left + right).Near (value + value') (error + error' + bound / 2 ^ 52) := by
  have close : |left.toRat + right.toRat - (value + value')| ≤ error + error' := by
    rw [add_sub_add_comm]
    exact (abs_add_le _ _).trans (add_le_add left_near.close right_near.close)
  refine (rounds_add left_near.isFinite right_near.isFinite).near_of_close close ?_ one_le small
  linarith [abs_add_le value value']

theorem Near.sub (left_near : left.Near value error) (right_near : right.Near value' error')
    (bound : ℚ) (bounded : |value| + |value'| + error + error' ≤ bound) (one_le : 1 ≤ bound)
    (small : bound ≤ 2 ^ 200) :
    (left - right).Near (value - value') (error + error' + bound / 2 ^ 52) := by
  have near := left_near.add right_near.neg bound (by rwa [abs_neg]) one_le small
  rwa [← sub_eq_add_neg] at near

theorem Near.mul (left_near : left.Near value error) (right_near : right.Near value' error')
    (bound : ℚ) (bounded : (|value| + error) * (|value'| + error') ≤ bound) (one_le : 1 ≤ bound)
    (small : bound ≤ 2 ^ 200) :
    (left * right).Near (value * value')
      (|value| * error' + error * |value'| + error * error' + bound / 2 ^ 52) := by
  have close : |left.toRat * right.toRat - value * value'| ≤
      |value| * error' + error * |value'| + error * error' := by
    calc
      |left.toRat * right.toRat - value * value'| =
          |value * (right.toRat - value') + (left.toRat - value) * value' +
            (left.toRat - value) * (right.toRat - value')| := by
        congr 1
        ring
      _ ≤ |value * (right.toRat - value')| + |(left.toRat - value) * value'| +
            |(left.toRat - value) * (right.toRat - value')| := abs_add_three _ _ _
      _ ≤ |value| * error' + error * |value'| + error * error' := by
        rw [abs_mul, abs_mul, abs_mul]
        have left_close := left_near.close
        have right_close := right_near.close
        have error_nonneg := left_near.error_nonneg
        gcongr
  refine (rounds_mul left_near.isFinite right_near.isFinite).near_of_close close ?_ one_le small
  rw [abs_mul]
  linarith

end Binary64
end ChessDrawing
