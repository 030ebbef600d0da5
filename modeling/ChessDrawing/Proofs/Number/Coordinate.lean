import ChessDrawing.Proofs.Number.PlainDecimal
import ChessDrawing.Proofs.Number.Twice

/-!
# Coordinates and hundredths

The coordinate of a finite double is the plain decimal of its nearest hundredth, a tie going to the
even one.  Two doubles have one coordinate exactly if they have one nearest hundredth, and coordinates
keep the order of the doubles.
-/

namespace ChessDrawing

/-! ## Nearest integers -/

namespace Number

variable {number number' : ℚ} {integer integer' : ℤ}

/-- No integer is nearer to the number, and one of two nearest integers is the even one. -/
structure NearestEven (number : ℚ) (integer : ℤ) : Prop where
  /-- Every other integer is at least as far away. -/
  closest : ∀ other : ℤ, |number - integer| ≤ |number - other|
  /-- Another integer that is as near leaves the even one. -/
  even_of_tie : ∀ other : ℤ, other ≠ integer → |number - other| = |number - integer| → Even integer

/-- An integer that is at most one half away, and even if it is one half away, is nearest. -/
theorem nearestEven_of_error (error : |number - integer| ≤ 1 / 2)
    (even : |number - integer| = 1 / 2 → Even integer) : NearestEven number integer := by
  have half_le (other : ℤ) (different : other ≠ integer) : 1 / 2 ≤ |number - other| := by
    have apart : (1 : ℚ) ≤ |(integer : ℚ) - other| := by
      exact_mod_cast Int.one_le_abs (sub_ne_zero.mpr different.symm)
    have triangle := abs_sub_le (integer : ℚ) number other
    rw [abs_sub_comm (integer : ℚ) number] at triangle
    linarith
  constructor
  · intro other
    by_cases same : other = integer
    · rw [same]
    · exact error.trans (half_le other same)
  · intro other different tie
    exact even (le_antisymm error (tie ▸ half_le other different))

theorem NearestEven.error (near : NearestEven number integer) : |number - integer| ≤ 1 / 2 :=
  (near.closest (round number)).trans (abs_sub_round number)

theorem NearestEven.le (near : NearestEven number integer) (near' : NearestEven number' integer')
    (ordered : number ≤ number') : integer ≤ integer' := by
  by_contra less
  have next : (integer' : ℚ) + 1 ≤ integer := by exact_mod_cast Int.not_le.mp less
  obtain ⟨low, -⟩ := abs_le.mp near.error
  obtain ⟨-, high⟩ := abs_le.mp near'.error
  -- both numbers are the middle between two consecutive integers
  have integer_eq : (integer : ℚ) = integer' + 1 := by linarith
  have number_eq : number = integer' + 1 / 2 := by linarith
  have number_eq' : number' = integer' + 1 / 2 := by linarith
  have successor : integer = integer' + 1 := by exact_mod_cast integer_eq
  have tie : |number - integer'| = |number - integer| := by
    rw [number_eq, integer_eq]
    norm_num
  have even := near.even_of_tie integer' (by omega) tie
  have even' := near'.even_of_tie integer (by omega) (by rw [number_eq', ← number_eq, tie])
  rw [successor] at even
  exact Int.not_even_iff_odd.mpr even'.add_one even

theorem NearestEven.unique (near : NearestEven number integer)
    (near' : NearestEven number integer') : integer = integer' :=
  le_antisymm (near.le near' le_rfl) (near'.le near le_rfl)

theorem NearestEven.even (near : NearestEven number integer) (half : |number - integer| = 1 / 2) :
    Even integer := by
  obtain above | below := (abs_eq (by norm_num)).mp half
  · refine near.even_of_tie (integer + 1) (by omega) ?_
    rw [half, Int.cast_add, Int.cast_one, ← sub_sub, above]
    norm_num
  · refine near.even_of_tie (integer - 1) (by omega) ?_
    rw [half, Int.cast_sub, Int.cast_one, ← sub_add, below]
    norm_num

theorem NearestEven.neg (near : NearestEven number integer) : NearestEven (-number) (-integer) := by
  have distance : |-number - ((-integer : ℤ) : ℚ)| = |number - integer| := by
    rw [Int.cast_neg, ← neg_sub', abs_neg]
  apply nearestEven_of_error
  · rw [distance]
    exact near.error
  · rw [distance]
    exact fun half => (near.even half).neg

/-- A quotient in the middle of two integers is rounded to the even one. -/
theorem nearest_even_of_tie (numerator : Nat) {denominator : Nat} (positive : 0 < denominator)
    (tie : 2 * numerator + denominator = 2 * (nearest numerator denominator * denominator) ∨
      2 * numerator = 2 * (nearest numerator denominator * denominator) + denominator) :
    Even (nearest numerator denominator) := by
  have remainder_lt := Nat.mod_lt numerator positive
  have decomposed := Nat.div_add_mod' numerator denominator
  have next : (numerator / denominator + 1) * denominator =
      numerator / denominator * denominator + denominator := Nat.succ_mul _ _
  rw [Nat.even_iff]
  simp only [nearest] at tie ⊢
  split_ifs at tie ⊢
  · omega
  · omega
  · omega

theorem nearestEven_nearest (numerator : Nat) {denominator : Nat} (positive : 0 < denominator) :
    NearestEven (numerator / denominator) (nearest numerator denominator : Nat) := by
  have positive' : (0 : ℚ) < denominator := by exact_mod_cast positive
  have even_of_tie := nearest_even_of_tie numerator positive
  obtain ⟨low, high⟩ := nearest_error numerator positive
  generalize nearest numerator denominator = quotient at *
  have low' : (2 : ℚ) * numerator ≤ 2 * (quotient * denominator) + denominator := by
    exact_mod_cast low
  have high' : (2 : ℚ) * (quotient * denominator) ≤ 2 * numerator + denominator := by
    exact_mod_cast high
  have distance_eq : (numerator : ℚ) / denominator - ((quotient : ℤ) : ℚ) =
      (numerator - quotient * denominator) / denominator := by
    rw [sub_div, mul_div_cancel_right₀ _ positive'.ne', Int.cast_natCast]
  apply nearestEven_of_error
  · rw [distance_eq, abs_le, le_div_iff₀ positive', div_le_iff₀ positive']
    constructor <;> linarith
  · intro half
    rw [distance_eq, abs_eq (by norm_num), div_eq_iff positive'.ne', div_eq_iff positive'.ne'] at half
    rw [Int.even_coe_nat]
    apply even_of_tie
    rcases half with above | below
    · right
      have equation : (2 : ℚ) * numerator = 2 * (quotient * denominator) + denominator := by
        linarith
      exact_mod_cast equation
    · left
      have equation : (2 : ℚ) * numerator + denominator = 2 * (quotient * denominator) := by
        linarith
      exact_mod_cast equation

end Number

/-! ## Coordinates -/

namespace Binary64

open Number Text

variable {negative : Bool} {units : Nat}

theorem coordinate_finite (short : IsShort 52 units) (in_range : units < unitLimit) :
    (finite negative units).coordinate =
      (PlainDecimal.ofHundredths (signed negative (steps 2 units))).text := by
  have size : (signed negative (steps 2 units)).natAbs = steps 2 units := by
    cases negative <;> simp [signed]
  have below : decide (signed negative (steps 2 units) < 0) = (negative && steps 2 units != 0) := by
    rw [Bool.eq_iff_iff]
    cases negative <;> simp [signed, Nat.pos_iff_ne_zero]
  rw [coordinate, toHundredth_add_zero short in_range, twoPlaces, withoutFinal_fixedPlaces,
    steps_throughHundredths short, PlainDecimal.ofHundredths, size, below]

theorem nearestEven_signed_steps (negative : Bool) (units : Nat) :
    NearestEven (100 * (finite negative units).toRat) (signed negative (steps 2 units)) := by
  have near := nearestEven_nearest (Nat.pow 10 2 * units) unitsPerOne_pos
  have number_eq : ((Nat.pow 10 2 * units : Nat) : ℚ) / unitsPerOne =
      100 * (units / unitsPerOne) := by
    push_cast
    ring
  rw [number_eq] at near
  cases negative with
  | false => simpa [toRat, signed, steps] using near
  | true => simpa [toRat, signed, steps, neg_div] using near.neg

/-- The coordinate of a finite double is the plain decimal of its nearest hundredth, with a sign
exactly if that is negative.  Two doubles have the same coordinate exactly if they have the same
nearest hundredth, and the numbers that coordinates denote are ordered like the doubles. -/
theorem coordinate_shows_nearest_hundredth :
    (∀ bits : BitVec 64, (ofBits bits).IsFinite →
      ∃ (hundredths : ℤ) (shown : PlainDecimal),
        NearestEven (100 * (ofBits bits).toRat) hundredths ∧
        (ofBits bits).coordinate = shown.text ∧
        readDecimal shown.text = hundredths / 100 ∧
        (shown.negative = true ↔ hundredths < 0)) ∧
    ∀ left right : BitVec 64, (ofBits left).IsFinite → (ofBits right).IsFinite →
      ((ofBits left).coordinate = (ofBits right).coordinate ↔
        ∃ hundredths, NearestEven (100 * (ofBits left).toRat) hundredths ∧
          NearestEven (100 * (ofBits right).toRat) hundredths) ∧
      ((ofBits left).toRat ≤ (ofBits right).toRat →
        readDecimal (ofBits left).coordinate ≤ readDecimal (ofBits right).coordinate) := by
  have shown {bits : BitVec 64} (finite : (ofBits bits).IsFinite) :
      ∃ hundredths, NearestEven (100 * (ofBits bits).toRat) hundredths ∧
        (ofBits bits).coordinate = (PlainDecimal.ofHundredths hundredths).text := by
    obtain ⟨negative, units, decoded⟩ := exists_units_of_isFinite finite
    obtain ⟨short, in_range⟩ := isShort_of_ofBits decoded
    rw [decoded, coordinate_finite short in_range]
    exact ⟨_, nearestEven_signed_steps negative units, rfl⟩
  constructor
  · intro bits finite
    obtain ⟨hundredths, near, text_eq⟩ := shown finite
    exact ⟨hundredths, .ofHundredths hundredths, near, text_eq, readDecimal_ofHundredths hundredths,
      decide_eq_true_iff⟩
  · intro left right left_finite right_finite
    obtain ⟨hundredths, near, text_eq⟩ := shown left_finite
    obtain ⟨hundredths', near', text_eq'⟩ := shown right_finite
    rw [text_eq, text_eq', readDecimal_ofHundredths, readDecimal_ofHundredths]
    refine ⟨⟨?_, ?_⟩, ?_⟩
    · intro same
      have values := congrArg readDecimal same
      rw [readDecimal_ofHundredths, readDecimal_ofHundredths,
        div_left_inj' (by norm_num), Int.cast_inj] at values
      exact ⟨hundredths, near, values ▸ near'⟩
    · rintro ⟨common, left_near, right_near⟩
      rw [near.unique left_near, near'.unique right_near]
    · intro ordered
      have hundredths_le := near.le near' (mul_le_mul_of_nonneg_left ordered (by norm_num))
      gcongr

/-- The double `2 ^ 50 - 1 / 8` lies in the middle of two hundredths, and both are no doubles; a
negative number near zero has no sign. -/
theorem coordinate_of_middle :
    let tiny := ofBits 0xbf50624dd2f1a9fc
    let middle := ofBits 0x430fffffffffffff
    tiny.coordinate = ['0'] ∧ middle.coordinate = "1125899906842623.88".toList ∧
      (∃ (hundredths : ℤ) (shown : PlainDecimal), NearestEven (100 * middle.toRat) hundredths ∧
        middle.coordinate = shown.text ∧ readDecimal shown.text = hundredths / 100) ∧
      (¬ ∃ hundredths, NearestEven (100 * tiny.toRat) hundredths ∧
        NearestEven (100 * middle.toRat) hundredths) ∧
      readDecimal tiny.coordinate ≤ readDecimal middle.coordinate := by
  obtain ⟨shows, compares⟩ := coordinate_shows_nearest_hundredth
  have tiny_text : (ofBits 0xbf50624dd2f1a9fc).coordinate = ['0'] := by decide +kernel
  have middle_text : (ofBits 0x430fffffffffffff).coordinate = "1125899906842623.88".toList := by
    decide +kernel
  have ordered : (ofBits 0xbf50624dd2f1a9fc).toRat ≤ (ofBits 0x430fffffffffffff).toRat := by
    decide +kernel
  obtain ⟨hundredths, shown, near, text_eq, value_eq, -⟩ := shows 0x430fffffffffffff trivial
  obtain ⟨same_iff, monotone⟩ := compares 0xbf50624dd2f1a9fc 0x430fffffffffffff trivial trivial
  refine ⟨tiny_text, middle_text, ⟨hundredths, shown, near, text_eq, value_eq⟩, ?_, monotone ordered⟩
  rw [← same_iff, tiny_text, middle_text]
  decide

end Binary64
end ChessDrawing
