import ChessDrawing.Number.Nearest
import Mathlib

/-!
# Errors of rounding

The nearest integer is at most one half away, and a quotient rounded to significant bits differs
from the quotient by a share of it that those bits fix, or by one half if it has fewer bits.  The
square root rounded down is the integer square root, and its square is close to the radicand.
-/

namespace ChessDrawing
namespace Number

/-! ## Nearest integers -/

theorem nearest_bounds (numerator denominator : Nat) :
    numerator / denominator ≤ nearest numerator denominator ∧
      nearest numerator denominator ≤ numerator / denominator + 1 := by
  simp only [nearest]
  split
  · omega
  · split
    · omega
    · omega

/-- The nearest integer is at most one half away. -/
theorem nearest_error (numerator : Nat) {denominator : Nat} (positive : 0 < denominator) :
    2 * numerator ≤ 2 * (nearest numerator denominator * denominator) + denominator ∧
      2 * (nearest numerator denominator * denominator) ≤ 2 * numerator + denominator := by
  have remainder_lt := Nat.mod_lt numerator positive
  have decomposed := Nat.div_add_mod' numerator denominator
  have next (quotient : Nat) : (quotient + 1) * denominator = quotient * denominator + denominator :=
    Nat.succ_mul quotient denominator
  simp only [nearest]
  split
  · omega
  · split
    · rw [next]
      omega
    · obtain even | odd := Nat.mod_two_eq_zero_or_one (numerator / denominator)
      · rw [even, Nat.add_zero]
        omega
      · rw [odd, next]
        omega

/-- A tie below an even bound is rounded up to it. -/
theorem nearest_lt_iff {numerator denominator bound : Nat} (positive : 0 < denominator)
    (even : bound % 2 = 0) :
    nearest numerator denominator < bound ↔
      2 * numerator + denominator < 2 * (bound * denominator) := by
  have remainder_lt := Nat.mod_lt numerator positive
  have decomposed := Nat.div_add_mod' numerator denominator
  obtain ⟨low, high⟩ := nearest_bounds numerator denominator
  obtain below | next | above : numerator / denominator + 2 ≤ bound ∨
      numerator / denominator + 1 = bound ∨ bound ≤ numerator / denominator := by omega
  · have product := Nat.mul_le_mul_right denominator below
    rw [Nat.add_mul] at product
    omega
  · -- The bound is the next integer, so that the quotient is odd.
    have product := congrArg (· * denominator) next
    simp only [Nat.succ_mul] at product
    have odd : numerator / denominator % 2 = 1 := by omega
    simp only [nearest, odd]
    split
    · omega
    · split
      · omega
      · omega
  · have product := Nat.mul_le_mul_right denominator above
    omega

/-! ## Significant bits -/

variable {bits numerator denominator : Nat}

/-- The distance between neighbours among the numbers with one more bit than `bits`, around a number
with the given integer part. -/
def gap (bits quotient : Nat) : Nat :=
  2 ^ (quotient.log2 - bits)

theorem significant_eq (bits numerator denominator : Nat) :
    significant (bits + 1) numerator denominator =
      nearest numerator (denominator * gap bits (numerator / denominator)) *
        gap bits (numerator / denominator) := by
  have exponent (quotient : Nat) : quotient.log2 + 1 - (bits + 1) = quotient.log2 - bits := by omega
  simp only [significant, exponent]
  rfl

theorem gap_pos (bits quotient : Nat) : 0 < gap bits quotient :=
  Nat.two_pow_pos _

theorem gap_mul_le (bits quotient : Nat) : gap bits quotient * 2 ^ bits ≤ 2 ^ bits + quotient := by
  obtain small | large := Nat.lt_or_ge quotient.log2 bits
  · rw [gap, Nat.sub_eq_zero_of_le small.le]
    omega
  · rw [gap, ← Nat.pow_add, Nat.sub_add_cancel large]
    by_cases nonzero : quotient = 0
    · subst nonzero
      rw [Nat.log2_zero] at large ⊢
      rw [Nat.le_zero.mp large]
      omega
    · exact (Nat.log2_self_le nonzero).trans (Nat.le_add_left _ _)

/-- Rounding a quotient to significant bits changes it by a share of it, or by one half. -/
theorem abs_significant_sub_le (bits numerator : Nat) (positive : 0 < denominator) :
    |(significant (bits + 1) numerator denominator : ℚ) - numerator / denominator| ≤
      numerator / denominator / 2 ^ (bits + 1) + 1 / 2 := by
  have gap_positive := gap_pos bits (numerator / denominator)
  have gap_le : (gap bits (numerator / denominator) : ℚ) ≤
      1 + numerator / denominator / 2 ^ bits := by
    have scaled : ((gap bits (numerator / denominator) * 2 ^ bits : Nat) : ℚ) ≤
        (2 ^ bits + numerator / denominator : Nat) := by
      exact_mod_cast gap_mul_le bits (numerator / denominator)
    have quotient_le : ((numerator / denominator : Nat) : ℚ) ≤ numerator / denominator :=
      Nat.cast_div_le
    push_cast at scaled
    have power_pos : (0 : ℚ) < 2 ^ bits := by positivity
    rw [← sub_le_iff_le_add', le_div_iff₀ power_pos]
    linarith
  obtain ⟨low, high⟩ := nearest_error numerator (Nat.mul_pos positive gap_positive)
  rw [significant_eq]
  generalize nearest numerator (denominator * gap bits (numerator / denominator)) = rounded at *
  generalize gap bits (numerator / denominator) = step at *
  have denominator_pos : (0 : ℚ) < denominator := by exact_mod_cast positive
  have low' : (2 : ℚ) * numerator ≤ 2 * (rounded * (denominator * step)) + denominator * step := by
    exact_mod_cast low
  have high' : (2 : ℚ) * (rounded * (denominator * step)) ≤ 2 * numerator + denominator * step := by
    exact_mod_cast high
  have quotient_le : (numerator : ℚ) / denominator ≤ rounded * step + step / 2 := by
    rw [div_le_iff₀ denominator_pos]
    linarith
  have le_quotient : rounded * step - step / 2 ≤ (numerator : ℚ) / denominator := by
    rw [le_div_iff₀ denominator_pos]
    linarith
  have halved : (step : ℚ) / 2 ≤ numerator / denominator / 2 ^ (bits + 1) + 1 / 2 := by
    rw [pow_succ, ← div_div]
    linarith
  push_cast
  rw [abs_le]
  constructor
  · linarith
  · linarith

theorem significant_le (bits numerator denominator : Nat) :
    significant (bits + 1) numerator denominator ≤
      numerator / denominator + gap bits (numerator / denominator) := by
  rw [significant_eq]
  generalize gap bits (numerator / denominator) = step
  calc
    nearest numerator (denominator * step) * step ≤
        (numerator / (denominator * step) + 1) * step :=
      Nat.mul_le_mul_right step (nearest_bounds _ _).2
    _ = numerator / denominator / step * step + step := by
      rw [Nat.div_div_eq_div_mul, Nat.succ_mul]
    _ ≤ numerator / denominator + step :=
      Nat.add_le_add_right (Nat.div_mul_le_self _ _) step

/-- Rounding keeps the leading power of two of a quotient with enough bits. -/
theorem pow_log2_le_significant (large : bits ≤ (numerator / denominator).log2)
    (nonzero : numerator / denominator ≠ 0) :
    2 ^ (numerator / denominator).log2 ≤ significant (bits + 1) numerator denominator := by
  have step_eq : gap bits (numerator / denominator) * 2 ^ bits =
      2 ^ (numerator / denominator).log2 := by
    rw [gap, ← Nat.pow_add, Nat.sub_add_cancel large]
  have bits_le : 2 ^ bits ≤
      numerator / denominator / gap bits (numerator / denominator) := by
    rw [Nat.le_div_iff_mul_le (gap_pos _ _), Nat.mul_comm, step_eq]
    exact Nat.log2_self_le nonzero
  rw [significant_eq, ← step_eq, Nat.mul_comm]
  apply Nat.mul_le_mul_right
  calc
    2 ^ bits ≤ numerator / denominator / gap bits (numerator / denominator) := bits_le
    _ = numerator / (denominator * gap bits (numerator / denominator)) :=
      Nat.div_div_eq_div_mul _ _ _
    _ ≤ nearest numerator (denominator * gap bits (numerator / denominator)) :=
      (nearest_bounds _ _).1

/-- Rounding keeps a quotient below a power of two exactly if it is more than half a gap below. -/
theorem significant_lt_iff (bits numerator exponent : Nat) (positive : 0 < denominator) :
    significant (bits + 1) numerator denominator < 2 ^ (bits + 1 + exponent) ↔
      2 * numerator + denominator * 2 ^ exponent <
        2 * (2 ^ (bits + 1) * (denominator * 2 ^ exponent)) := by
  have quotient_lt : numerator / denominator < 2 ^ ((numerator / denominator).log2 + 1) :=
    Nat.lt_log2_self
  have bound_eq : 2 ^ (bits + 1) * (denominator * 2 ^ exponent) =
      2 ^ (bits + 1 + exponent) * denominator := by
    ring
  -- the bound is a power of two: only a quotient of one less binary place can be rounded up to it
  obtain below | next | above := Nat.lt_trichotomy (numerator / denominator).log2 (bits + exponent)
  · have quotient_small : numerator / denominator < 2 ^ (bits + exponent) :=
      quotient_lt.trans_le (Nat.pow_le_pow_right Nat.two_pos below)
    have gap_small : gap bits (numerator / denominator) ≤ 2 ^ exponent :=
      Nat.pow_le_pow_right Nat.two_pos (by omega)
    have power_le : 2 ^ exponent ≤ 2 ^ (bits + exponent) :=
      Nat.pow_le_pow_right Nat.two_pos (Nat.le_add_left _ _)
    have double : 2 ^ (bits + 1 + exponent) = 2 * 2 ^ (bits + exponent) := by ring
    have rounded_le := significant_le bits numerator denominator
    have numerator_lt := (Nat.div_lt_iff_lt_mul positive).mp quotient_small
    have share_le := Nat.mul_le_mul_right denominator power_le
    rw [bound_eq, double, Nat.mul_comm denominator, Nat.mul_assoc]
    exact iff_of_true (by omega) (by omega)
  · have gap_eq : gap bits (numerator / denominator) = 2 ^ exponent := by
      rw [gap, next, Nat.add_sub_cancel_left]
    have even : 2 ^ (bits + 1) % 2 = 0 := by
      rw [Nat.pow_succ, Nat.mul_mod_left]
    have step_pos := Nat.mul_pos positive (Nat.two_pow_pos exponent)
    rw [significant_eq, gap_eq, Nat.pow_add, Nat.mul_lt_mul_right (Nat.two_pow_pos exponent),
      nearest_lt_iff step_pos even]
  · have power_le : 2 ^ (bits + 1 + exponent) ≤ 2 ^ (numerator / denominator).log2 :=
      Nat.pow_le_pow_right Nat.two_pos (by omega)
    have nonzero : numerator / denominator ≠ 0 := by
      intro zero
      rw [zero, Nat.log2_zero] at above
      omega
    have rounded_ge :
        2 ^ (numerator / denominator).log2 ≤ significant (bits + 1) numerator denominator :=
      pow_log2_le_significant (by omega) nonzero
    have numerator_ge : 2 ^ (bits + 1 + exponent) * denominator ≤ numerator :=
      (Nat.le_div_iff_mul_le positive).mp (power_le.trans (Nat.log2_self_le nonzero))
    rw [bound_eq]
    exact iff_of_false (by omega) (by omega)

/-! ## Square roots -/

theorem lt_floorRootWithin_succ {bits radicand : Nat} (small : radicand < 4 ^ bits) :
    radicand < (floorRootWithin bits radicand + 1) * (floorRootWithin bits radicand + 1) := by
  induction bits generalizing radicand with
  | zero => simpa [floorRootWithin] using small
  | succ bits ih =>
      have quarter_small : radicand / 4 < 4 ^ bits := by
        rw [pow_succ] at small
        omega
      have quarter := ih quarter_small
      simp only [floorRootWithin]
      generalize floorRootWithin bits (radicand / 4) = half at *
      split
      · have doubled : (2 * half + 1 + 1) * (2 * half + 1 + 1) = 4 * ((half + 1) * (half + 1)) := by
          ring
        omega
      · omega

/-- Bit by bit the integer square root is found. -/
theorem floorRoot_eq_sqrt (radicand : Nat) : floorRoot radicand = radicand.sqrt := by
  have small : radicand < 4 ^ (radicand.log2 / 2 + 1) := by
    have power_eq : 4 ^ (radicand.log2 / 2 + 1) = 2 ^ (2 * (radicand.log2 / 2 + 1)) := by
      rw [Nat.pow_mul]
    rw [power_eq]
    exact Nat.lt_log2_self.trans_le (Nat.pow_le_pow_right Nat.two_pos (by omega))
  exact Nat.eq_sqrt.mpr ⟨floorRootWithin_mul_self_le _ _, lt_floorRootWithin_succ small⟩

theorem nearestRoot_bounds (numerator denominator : Nat) :
    (numerator / denominator).sqrt ≤ nearestRoot numerator denominator ∧
      nearestRoot numerator denominator ≤ (numerator / denominator).sqrt + 1 := by
  simp only [nearestRoot, floorRoot_eq_sqrt]
  split
  · omega
  · split
    · omega
    · omega

/-- The square of a nearest root with many bits is close to the quotient. -/
theorem abs_nearestRoot_sq_sub_le {bits numerator denominator : Nat} (positive : 0 < denominator)
    (large : 4 ^ bits * denominator ≤ numerator) :
    |(nearestRoot numerator denominator : ℚ) ^ 2 * denominator - numerator| ≤
      3 * numerator / 2 ^ bits := by
  obtain ⟨low, high⟩ := nearestRoot_bounds numerator denominator
  have floor_le := (Nat.le_div_iff_mul_le positive).mp (Nat.sqrt_le (numerator / denominator))
  have lt_next :=
    (Nat.div_lt_iff_lt_mul positive).mp (Nat.lt_succ_sqrt (numerator / denominator))
  have many_bits : 2 ^ bits ≤ (numerator / denominator).sqrt := by
    rw [Nat.le_sqrt, ← Nat.mul_pow, Nat.le_div_iff_mul_le positive]
    exact large
  generalize (numerator / denominator).sqrt = floor at *
  generalize nearestRoot numerator denominator = root at *
  have low' : (floor : ℚ) ≤ root := by exact_mod_cast low
  have high' : (root : ℚ) ≤ floor + 1 := by exact_mod_cast high
  have floor_le' : (floor : ℚ) * floor * denominator ≤ numerator := by exact_mod_cast floor_le
  have lt_next' : (numerator : ℚ) ≤ (floor + 1) * (floor + 1) * denominator := by
    exact_mod_cast lt_next.le
  have many_bits' : (2 : ℚ) ^ bits ≤ floor := by exact_mod_cast many_bits
  have power_ge : (1 : ℚ) ≤ 2 ^ bits := one_le_pow₀ one_le_two
  have share : 3 * ((floor : ℚ) * denominator) ≤ 3 * numerator / 2 ^ bits := by
    have product : (floor : ℚ) * denominator * 2 ^ bits ≤ floor * denominator * floor :=
      mul_le_mul_of_nonneg_left many_bits' (by positivity)
    rw [le_div_iff₀ (by positivity)]
    linarith
  have widened : (2 * floor + 1) * (denominator : ℚ) ≤ 3 * (floor * denominator) := by
    nlinarith
  have square_ge : (floor : ℚ) * floor * denominator ≤ root ^ 2 * denominator := by
    rw [pow_two]
    gcongr
  have square_le : (root : ℚ) ^ 2 * denominator ≤ (floor + 1) * (floor + 1) * denominator := by
    rw [pow_two]
    gcongr
  rw [abs_le]
  constructor
  · linarith
  · linarith

end Number
end ChessDrawing
