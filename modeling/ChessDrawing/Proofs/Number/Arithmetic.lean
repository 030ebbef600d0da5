import ChessDrawing.Number.Binary64
import ChessDrawing.Proofs.Number.Rounding

/-!
# Errors of arithmetic

A finite double stands for a rational number.  Each operation of arithmetic rounds the exact result:
it is finite unless the exact result is very large, and a finite result differs from the exact one
by a share of `2 ^ -53` and half a unit at most.
-/

namespace ChessDrawing
namespace Binary64

open Number

/-! ## Numbers -/

/-- The number is neither infinite nor missing. -/
def IsFinite : Binary64 → Prop
  | .finite _ _ => True
  | _ => False

/-- The rational number that a finite number stands for. -/
def toRat : Binary64 → ℚ
  | .finite negative units => signed negative units / unitsPerOne
  | _ => 0

theorem exists_units_of_isFinite {number : Binary64} (finite : number.IsFinite) :
    ∃ negative units, number = .finite negative units := by
  cases number with
  | finite negative units => exact ⟨negative, units, rfl⟩
  | infinite negative => exact finite.elim
  | nan => exact finite.elim

/-- A sign as a factor. -/
def sign (negative : Bool) : ℚ :=
  if negative then -1 else 1

theorem toRat_finite (negative : Bool) (units : Nat) :
    (finite negative units).toRat = sign negative * units / unitsPerOne := by
  cases negative <;> simp [toRat, signed, sign]

@[simp]
theorem abs_sign (negative : Bool) : |sign negative| = 1 := by
  cases negative <;> simp [sign]

/-- The sign and the size of an integer. -/
theorem sign_mul_natAbs (value : ℤ) : sign (decide (value < 0)) * value.natAbs = value := by
  rw [sign, Nat.cast_natAbs, Int.cast_abs]
  by_cases below : value < 0
  · have below' : (value : ℚ) < 0 := by exact_mod_cast below
    simp [below, abs_of_neg below']
  · have above' : (0 : ℚ) ≤ value := by exact_mod_cast Int.not_lt.mp below
    simp [below, abs_of_nonneg above']

theorem abs_toRat_finite (negative : Bool) (units : Nat) :
    |(finite negative units).toRat| = units / unitsPerOne := by
  rw [toRat_finite, abs_div, abs_mul, abs_sign, one_mul, Nat.abs_cast, Nat.abs_cast]

theorem cast_unitsPerOne_pos : (0 : ℚ) < unitsPerOne := by
  exact_mod_cast unitsPerOne_pos

theorem toRat_positive (units : Nat) : (finite false units).toRat = units / unitsPerOne := by
  rw [toRat_finite, sign, if_neg Bool.false_ne_true, one_mul]

/-- The units of a whole number. -/
theorem toRat_whole (count : Nat) : (finite false (count * unitsPerOne)).toRat = count := by
  rw [toRat_positive, Nat.cast_mul, mul_div_cancel_right₀ _ cast_unitsPerOne_pos.ne']

@[simp]
theorem toRat_neg (number : Binary64) : (-number).toRat = -number.toRat := by
  cases number with
  | finite negative units =>
      change (finite (!negative) units).toRat = _
      cases negative <;> simp [toRat, signed, neg_div]
  | infinite negative => exact neg_zero.symm
  | nan => exact neg_zero.symm

@[simp]
theorem isFinite_neg {number : Binary64} : (-number).IsFinite ↔ number.IsFinite := by
  cases number <;> exact Iff.rfl

/-! ## Rounding -/

/-- Half a unit as a rational number. -/
def halfUnit : ℚ :=
  1 / 2 / unitsPerOne

theorem halfUnit_nonneg : 0 ≤ halfUnit :=
  div_nonneg one_half_pos.le cast_unitsPerOne_pos.le

/-- A number is an exact result rounded once. -/
structure Rounds (number : Binary64) (exact : ℚ) : Prop where
  /-- A finite number is close to the exact result. -/
  close : number.IsFinite → |number.toRat - exact| ≤ |exact| / 2 ^ 53 + halfUnit
  /-- The number is finite unless the exact result is very large. -/
  isFinite : |exact| ≤ 2 ^ 200 → number.IsFinite

/-- The distance between the largest finite numbers in units. -/
@[irreducible]
def largestGap : Nat :=
  Nat.pow 2 2045

theorem largestGap_pos : 0 < largestGap := by
  unfold largestGap
  apply Nat.two_pow_pos

theorem roundUnits_lt_unitLimit_iff {numerator denominator : Nat} (positive : 0 < denominator) :
    roundUnits numerator denominator < unitLimit ↔
      2 * numerator + denominator * largestGap < 2 * (2 ^ 53 * (denominator * largestGap)) := by
  have limit_eq : unitLimit = 2 ^ (52 + 1 + 2045) := by decide +kernel
  have gap_eq : largestGap = 2 ^ 2045 := by decide +kernel
  rw [limit_eq, gap_eq, roundUnits]
  exact significant_lt_iff 52 numerator 2045 positive

theorem isFinite_ofUnits {negative : Bool} {units : Nat} :
    (ofUnits negative units).IsFinite ↔ units < unitLimit := by
  rw [ofUnits]
  split
  · rename_i small
    exact ⟨fun _ => small, fun _ => trivial⟩
  · rename_i large
    exact ⟨fun finite => finite.elim, fun small => absurd small large⟩

theorem rounds_rounded (negative : Bool) (numerator : Nat) {denominator : Nat}
    (positive : 0 < denominator) :
    Rounds (rounded negative numerator denominator)
      (sign negative * (numerator / denominator / unitsPerOne)) := by
  have abs_exact : |sign negative * ((numerator : ℚ) / denominator / unitsPerOne)| =
      numerator / denominator / unitsPerOne := by
    rw [abs_mul, abs_sign, one_mul, abs_of_nonneg (by positivity)]
  constructor
  · intro finite
    have error := abs_significant_sub_le 52 numerator positive
    rw [rounded, ofUnits, if_pos (isFinite_ofUnits.mp finite), toRat_finite, abs_exact, halfUnit,
      mul_div_assoc, ← mul_sub, abs_mul, abs_sign, one_mul, ← sub_div, abs_div,
      abs_of_pos cast_unitsPerOne_pos, div_right_comm, ← add_div]
    exact div_le_div_of_nonneg_right error cast_unitsPerOne_pos.le
  · intro small
    rw [abs_exact, div_le_iff₀ cast_unitsPerOne_pos,
      div_le_iff₀ (by exact_mod_cast positive)] at small
    have small_units : numerator ≤ 2 ^ 200 * unitsPerOne * denominator := by exact_mod_cast small
    have scale_le : 2 ^ 200 * unitsPerOne ≤ 2 ^ 29 * largestGap := by decide +kernel
    have numerator_le : numerator ≤ 2 ^ 29 * (denominator * largestGap) := by
      calc
        numerator ≤ 2 ^ 200 * unitsPerOne * denominator := small_units
        _ ≤ 2 ^ 29 * largestGap * denominator := Nat.mul_le_mul_right denominator scale_le
        _ = 2 ^ 29 * (denominator * largestGap) := by rw [Nat.mul_assoc, Nat.mul_comm largestGap]
    rw [rounded, isFinite_ofUnits, roundUnits_lt_unitLimit_iff positive]
    have share_pos := Nat.mul_pos positive largestGap_pos
    omega

/-! ## Operations -/

variable {left right : Binary64}

theorem rounds_add (left_finite : left.IsFinite) (right_finite : right.IsFinite) :
    Rounds (left + right) (left.toRat + right.toRat) := by
  obtain ⟨negative, units, rfl⟩ := exists_units_of_isFinite left_finite
  obtain ⟨negative', units', rfl⟩ := exists_units_of_isFinite right_finite
  have exact_eq : (finite negative units).toRat + (finite negative' units').toRat =
      ((signed negative units + signed negative' units' : Int) : ℚ) / unitsPerOne := by
    rw [toRat, toRat, ← add_div]
    push_cast
    rfl
  rw [exact_eq]
  change Rounds (add _ _) _
  rw [add]
  generalize signed negative units + signed negative' units' = sum
  by_cases zero : sum = 0
  · rw [if_pos zero, zero]
    constructor
    · intro _
      simpa [toRat_finite] using halfUnit_nonneg
    · intro _
      trivial
  · rw [if_neg zero]
    have rounds := rounds_rounded (sum < 0) sum.natAbs Nat.one_pos
    rwa [Nat.cast_one, div_one, ← mul_div_assoc, sign_mul_natAbs] at rounds

theorem rounds_sub (left_finite : left.IsFinite) (right_finite : right.IsFinite) :
    Rounds (left - right) (left.toRat - right.toRat) := by
  have rounds := rounds_add left_finite (isFinite_neg.mpr right_finite)
  rwa [toRat_neg, ← sub_eq_add_neg] at rounds

theorem sign_bne (negative negative' : Bool) :
    sign (negative != negative') = sign negative * sign negative' := by
  cases negative <;> cases negative' <;> simp [sign]

theorem rounds_mul (left_finite : left.IsFinite) (right_finite : right.IsFinite) :
    Rounds (left * right) (left.toRat * right.toRat) := by
  obtain ⟨negative, units, rfl⟩ := exists_units_of_isFinite left_finite
  obtain ⟨negative', units', rfl⟩ := exists_units_of_isFinite right_finite
  have rounds := rounds_rounded (negative != negative') (units * units') unitsPerOne_pos
  have exact_eq : (finite negative units).toRat * (finite negative' units').toRat =
      sign (negative != negative') * (((units * units' : Nat) : ℚ) / unitsPerOne / unitsPerOne) := by
    rw [toRat_finite, toRat_finite, sign_bne]
    push_cast
    ring
  rw [exact_eq]
  exact rounds

theorem rounds_div (left_finite : left.IsFinite) (right_finite : right.IsFinite)
    (nonzero : right.toRat ≠ 0) : Rounds (left / right) (left.toRat / right.toRat) := by
  obtain ⟨negative, units, rfl⟩ := exists_units_of_isFinite left_finite
  obtain ⟨negative', units', rfl⟩ := exists_units_of_isFinite right_finite
  have units_ne : units' ≠ 0 := by
    rintro rfl
    exact nonzero (by simp [toRat_finite])
  have rounds :=
    rounds_rounded (negative != negative') (unitsPerOne * units) (Nat.pos_of_ne_zero units_ne)
  have exact_eq : (finite negative units).toRat / (finite negative' units').toRat =
      sign (negative != negative') *
        (((unitsPerOne * units : Nat) : ℚ) / units' / unitsPerOne) := by
    have units_ne' : (units' : ℚ) ≠ 0 := by exact_mod_cast units_ne
    rw [toRat_finite, toRat_finite, sign_bne]
    push_cast
    cases negative' with
    | false =>
        simp only [sign, Bool.false_eq_true, if_false]
        field_simp
    | true =>
        simp only [sign, if_true]
        field_simp
  rw [exact_eq]
  change Rounds (div _ _) _
  rw [div, if_neg units_ne]
  exact rounds

/-! ## Finite results -/

theorem isFinite_of_add (finite : (left + right).IsFinite) : left.IsFinite ∧ right.IsFinite := by
  change (add left right).IsFinite at finite
  cases left with
  | finite negative units =>
      cases right with
      | finite negative' units' => exact ⟨trivial, trivial⟩
      | infinite negative' => exact finite.elim
      | nan => exact finite.elim
  | infinite negative =>
      cases right with
      | finite negative' units' => exact finite.elim
      | infinite negative' =>
          rw [add] at finite
          split at finite
          · exact finite.elim
          · exact finite.elim
      | nan => exact finite.elim
  | nan => cases right <;> exact finite.elim

theorem isFinite_of_sub (finite : (left - right).IsFinite) : left.IsFinite ∧ right.IsFinite := by
  obtain ⟨left_finite, neg_finite⟩ := isFinite_of_add finite
  exact ⟨left_finite, isFinite_neg.mp neg_finite⟩

/-- A finite sum has a count of units below the limit. -/
theorem units_lt_of_add {negative : Bool} {units : Nat}
    (result : left + right = finite negative units) : units < unitLimit := by
  have sum_finite : (left + right).IsFinite := by
    rw [result]
    trivial
  obtain ⟨left_finite, right_finite⟩ := isFinite_of_add sum_finite
  obtain ⟨left_negative, left_units, rfl⟩ := exists_units_of_isFinite left_finite
  obtain ⟨right_negative, right_units, rfl⟩ := exists_units_of_isFinite right_finite
  change add _ _ = _ at result
  rw [add] at result
  split at result
  · obtain ⟨-, rfl⟩ := finite.inj result
    decide +kernel
  · rw [rounded, ofUnits] at result
    split at result
    · rename_i small
      obtain ⟨-, rfl⟩ := finite.inj result
      exact small
    · cases result

/-! ## Square roots -/

/-- The square of a rounded root of enough units is close to the units. -/
theorem abs_rootUnits_sq_sub_le {radicand : Nat} (large : 104 ≤ radicand.log2) :
    |(rootUnits radicand : ℚ) ^ 2 - radicand| ≤ radicand / 2 ^ 50 := by
  have nonzero : radicand ≠ 0 := by
    rintro rfl
    simp at large
  have exponent : radicand.log2 / 2 + 1 - 53 = radicand.log2 / 2 - 52 := by omega
  have step_pos : 0 < 2 ^ (radicand.log2 / 2 - 52) * 2 ^ (radicand.log2 / 2 - 52) :=
    Nat.mul_pos (Nat.two_pow_pos _) (Nat.two_pow_pos _)
  have power_le : 4 ^ 52 * (2 ^ (radicand.log2 / 2 - 52) * 2 ^ (radicand.log2 / 2 - 52)) ≤
      radicand := by
    calc
      4 ^ 52 * (2 ^ (radicand.log2 / 2 - 52) * 2 ^ (radicand.log2 / 2 - 52)) =
          2 ^ (104 + (radicand.log2 / 2 - 52) + (radicand.log2 / 2 - 52)) := by
        rw [Nat.pow_add, Nat.pow_add, Nat.mul_assoc]
        norm_num
      _ ≤ 2 ^ radicand.log2 := Nat.pow_le_pow_right Nat.two_pos (by omega)
      _ ≤ radicand := Nat.log2_self_le nonzero
  have error := abs_nearestRoot_sq_sub_le step_pos power_le
  have root_eq : rootUnits radicand =
      nearestRoot radicand
        (2 ^ (radicand.log2 / 2 - 52) * 2 ^ (radicand.log2 / 2 - 52)) *
          2 ^ (radicand.log2 / 2 - 52) := by
    rw [rootUnits, exponent]
    rfl
  generalize nearestRoot radicand
    (2 ^ (radicand.log2 / 2 - 52) * 2 ^ (radicand.log2 / 2 - 52)) = nearest at *
  have square_eq : (rootUnits radicand : ℚ) ^ 2 =
      (nearest : ℚ) ^ 2 *
        (2 ^ (radicand.log2 / 2 - 52) * 2 ^ (radicand.log2 / 2 - 52) : Nat) := by
    rw [root_eq]
    push_cast
    ring
  have radicand_nonneg : (0 : ℚ) ≤ radicand := Nat.cast_nonneg _
  rw [square_eq]
  linarith

theorem exists_units_of_pos {number : Binary64} (positive : 0 < number.toRat) :
    ∃ units, number = finite false units ∧ units ≠ 0 := by
  cases number with
  | finite negative units =>
      rw [toRat_finite] at positive
      cases negative with
      | false =>
          refine ⟨units, rfl, ?_⟩
          rintro rfl
          simp at positive
      | true =>
          have nonneg : (0 : ℚ) ≤ units / unitsPerOne := by positivity
          simp only [sign, if_true, neg_one_mul, neg_div] at positive
          linarith
  | infinite negative => exact absurd positive (lt_irrefl _)
  | nan => exact absurd positive (lt_irrefl _)

/-- The root of a number in units is rounded with little error. -/
theorem abs_rootUnits_scaled_sq_sub_le {units : Nat} (units_ne : units ≠ 0) :
    |(rootUnits (unitsPerOne * units) / unitsPerOne : ℚ) ^ 2 - units / unitsPerOne| ≤
      units / unitsPerOne / 2 ^ 50 := by
  have scale_pos := cast_unitsPerOne_pos
  have large : 104 ≤ (unitsPerOne * units).log2 := by
    have scale_large : 2 ^ 104 ≤ unitsPerOne := by decide +kernel
    rw [Nat.le_log2 (Nat.mul_ne_zero unitsPerOne_pos.ne' units_ne)]
    exact scale_large.trans (Nat.le_mul_of_pos_right _ (Nat.pos_of_ne_zero units_ne))
  have error := abs_rootUnits_sq_sub_le large
  have radicand_eq :
      ((unitsPerOne * units : Nat) : ℚ) = units / unitsPerOne * unitsPerOne ^ 2 := by
    push_cast
    field_simp
  rw [radicand_eq, abs_le] at error
  obtain ⟨low, high⟩ := error
  rw [div_pow, abs_le]
  constructor
  · rw [le_sub_iff_add_le, le_div_iff₀ (by positivity)]
    linarith
  · rw [sub_le_iff_le_add, div_le_iff₀ (by positivity)]
    linarith

/-- The square of a rounded root is close to the number. -/
theorem root_close {number : Binary64} (positive : 0 < number.toRat)
    (small : number.toRat ≤ 2 ^ 200) :
    number.root.IsFinite ∧ 0 ≤ number.root.toRat ∧
      |number.root.toRat ^ 2 - number.toRat| ≤ number.toRat / 2 ^ 50 := by
  have scale_pos := cast_unitsPerOne_pos
  obtain ⟨units, rfl, units_ne⟩ := exists_units_of_pos positive
  have square_close := abs_rootUnits_scaled_sq_sub_le units_ne
  rw [toRat_positive] at small ⊢
  -- a root beyond the largest number would have too large a square
  have below : rootUnits (unitsPerOne * units) < unitLimit := by
    by_contra large_root
    have limit_ge : 2 ^ 200 * unitsPerOne ≤ unitLimit := by decide +kernel
    have root_ge : (2 ^ 200 : ℚ) ≤ rootUnits (unitsPerOne * units) / unitsPerOne := by
      rw [le_div_iff₀ scale_pos]
      exact_mod_cast limit_ge.trans (Nat.not_lt.mp large_root)
    have square_ge : (2 ^ 200 : ℚ) * 2 ^ 200 ≤
        (rootUnits (unitsPerOne * units) / unitsPerOne) ^ 2 := by
      rw [pow_two (_ / _)]
      exact mul_le_mul root_ge root_ge (by positivity) (by positivity)
    have square_le := (abs_le.mp square_close).2
    linarith
  have root_eq : (finite false units).root = finite false (rootUnits (unitsPerOne * units)) := by
    rw [root, if_neg units_ne, if_neg Bool.false_ne_true, ofUnits, if_pos below]
  rw [root_eq, toRat_positive]
  exact ⟨trivial, by positivity, square_close⟩

end Binary64
end ChessDrawing
