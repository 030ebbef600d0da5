import ChessDrawing.Number.WordDecimal
import ChessDrawing.Proofs.Number.Arithmetic

/-!
# Doubles written and read by words

A double that is written in its shortest decimal and read back through decimals of one word need not
be the same, but it is zero only if it was zero.  The shortest decimal has at most seventeen digits,
all of which fit the word, and it is larger than half of the least double by so much that the
rounding of the reader never brings it to zero.
-/

namespace ChessDrawing

/-! ## Results that are not zero -/

namespace Number

variable {bits numerator denominator : Nat}

/-- A quotient of more than one half is not rounded to zero. -/
theorem significant_ne_zero (bits : Nat) (large : denominator < 2 * numerator) :
    significant (bits + 1) numerator denominator ≠ 0 := by
  rw [significant_eq]
  by_cases whole : numerator / denominator = 0
  · have gap_eq : gap bits (numerator / denominator) = 1 := by
      rw [whole, gap, Nat.log2_zero, Nat.zero_sub, Nat.pow_zero]
    rw [gap_eq, Nat.mul_one, Nat.mul_one, nearest]
    by_cases positive : denominator = 0
    · subst positive
      simp
      omega
    · have below := (Nat.div_eq_zero_iff_lt (Nat.pos_of_ne_zero positive)).mp whole
      rw [Nat.mod_eq_of_lt below, if_neg (by omega), if_pos (by omega)]
      exact Nat.succ_ne_zero _
  · have gap_le : gap bits (numerator / denominator) ≤ numerator / denominator :=
      (Nat.pow_le_pow_right Nat.two_pos (Nat.sub_le _ _)).trans (Nat.log2_self_le whole)
    have step_pos := gap_pos bits (numerator / denominator)
    have quotient_pos :
        1 ≤ numerator / (denominator * gap bits (numerator / denominator)) := by
      rw [← Nat.div_div_eq_div_mul]
      exact (Nat.one_le_div_iff step_pos).mpr gap_le
    have rounded_ge := (nearest_bounds numerator
      (denominator * gap bits (numerator / denominator))).1
    exact Nat.mul_ne_zero (by omega) step_pos.ne'

/-- Rounding to enough bits keeps nine tenths of a quotient of ten or more. -/
theorem share_le_significant (enough : 4 ≤ bits) (positive : 0 < denominator)
    (large : 10 ≤ (numerator : ℚ) / denominator) :
    9 / 10 * ((numerator : ℚ) / denominator) ≤ significant (bits + 1) numerator denominator := by
  have error := (abs_le.mp (abs_significant_sub_le bits numerator positive)).1
  have power_ge : (2 ^ 5 : ℚ) ≤ 2 ^ (bits + 1) := by
    gcongr
    · norm_num
    · omega
  have share_le : (numerator : ℚ) / denominator / 2 ^ (bits + 1) ≤
      numerator / denominator / 2 ^ 5 := by
    gcongr
  linarith

end Number

namespace Binary64

open Number Text

variable {units : Nat}

theorem isZero_rounded {numerator denominator : Nat} (negative : Bool)
    (large : denominator < 2 * numerator) :
    (rounded negative numerator denominator).isZero = false := by
  have nonzero := significant_ne_zero 52 large
  rw [rounded, ofUnits, roundUnits]
  split
  · exact beq_false_of_ne nonzero
  · rfl

/-! ## Decimal exponents -/

theorem natural_bounds {value : Nat} (positive : 0 < value) :
    ∃ places, (natural value).length = places + 1 ∧ 10 ^ places ≤ value ∧
      value < 10 ^ (places + 1) := by
  have length_pos : 0 < (natural value).length := Nat.length_toDigits_pos
  obtain ⟨places, length_eq⟩ := Nat.exists_eq_succ_of_ne_zero length_pos.ne'
  refine ⟨places, length_eq, ?_, ?_⟩
  · by_contra small
    rw [Nat.not_le] at small
    have places_pos : 0 < places := by
      by_contra none
      simp only [Nat.eq_zero_of_not_pos none, pow_zero] at small
      omega
    have shorter := (Nat.length_toDigits_le_iff (by omega) places_pos).mpr small
    rw [natural] at length_eq
    omega
  · apply (Nat.length_toDigits_le_iff (by omega) (Nat.succ_pos places)).mp
    exact length_eq.le

theorem length_natural {value places : Nat} (low : 10 ^ places ≤ value)
    (high : value < 10 ^ (places + 1)) : (natural value).length = places + 1 := by
  have positive : 0 < value := (Nat.pow_pos (by omega)).trans_le low
  obtain ⟨places', length_eq, low', high'⟩ := natural_bounds positive
  have below := (Nat.pow_lt_pow_iff_right (by omega)).mp (low.trans_lt high')
  have above := (Nat.pow_lt_pow_iff_right (by omega)).mp (low'.trans_lt high)
  omega

/-- The exponent of the first digit brackets a quotient by powers of ten. -/
theorem decimalExponent_bounds {numerator denominator : Nat} (numerator_pos : 0 < numerator)
    (denominator_pos : 0 < denominator) :
    (10 : ℚ) ^ decimalExponent numerator denominator ≤ numerator / denominator ∧
      (numerator : ℚ) / denominator < 10 ^ (decimalExponent numerator denominator + 1) := by
  have denominator_pos' : (0 : ℚ) < denominator := by exact_mod_cast denominator_pos
  rw [decimalExponent]
  split
  · rename_i above
    obtain ⟨places, length_eq, low, high⟩ := natural_bounds (Nat.div_pos above denominator_pos)
    have low' := (Nat.le_div_iff_mul_le denominator_pos).mp low
    have high' := (Nat.div_lt_iff_lt_mul denominator_pos).mp high
    have exponent_eq : ((natural (numerator / denominator)).length : Int) - 1 = places := by
      rw [length_eq]
      omega
    rw [exponent_eq, le_div_iff₀ denominator_pos', div_lt_iff₀ denominator_pos']
    exact ⟨by exact_mod_cast low', by exact_mod_cast high'⟩
  · rename_i below
    have quotient_pos : 0 < (denominator - 1) / numerator :=
      Nat.div_pos (by omega) numerator_pos
    obtain ⟨places, length_eq, low, high⟩ := natural_bounds quotient_pos
    have low' := (Nat.le_div_iff_mul_le numerator_pos).mp low
    have high' := (Nat.div_lt_iff_lt_mul numerator_pos).mp high
    have exponent_eq : -((natural ((denominator - 1) / numerator)).length : Int) + 1 =
        -(places : Int) := by
      rw [length_eq]
      omega
    have low_nat : 10 ^ places * numerator < denominator := by omega
    have high_nat : denominator ≤ 10 ^ (places + 1) * numerator := by omega
    have low_rat : (10 : ℚ) ^ places * numerator < denominator := by exact_mod_cast low_nat
    have high_rat : (denominator : ℚ) ≤ 10 ^ (places + 1) * numerator := by
      exact_mod_cast high_nat
    rw [exponent_eq, length_eq, zpow_neg, zpow_neg, zpow_natCast, zpow_natCast]
    constructor
    · rw [inv_le_iff_one_le_mul₀ (by positivity), ← mul_div_right_comm, one_le_div denominator_pos']
      rwa [mul_comm]
    · rw [← one_div, div_lt_div_iff₀ denominator_pos' (by positivity), one_mul, mul_comm]
      exact low_rat

theorem timesPowerOfTen_ratio (exponent : Int) (numerator denominator : Nat) :
    ((timesPowerOfTen exponent numerator denominator).1 : ℚ) /
        (timesPowerOfTen exponent numerator denominator).2 =
      numerator / denominator * 10 ^ exponent := by
  obtain ⟨power, rfl | rfl⟩ := exponent.eq_nat_or_neg
  · simp [timesPowerOfTen, mul_div_right_comm]
  · simp only [timesPowerOfTen, Int.toNat_neg_natCast, neg_neg, Int.toNat_natCast, zpow_neg,
      zpow_natCast, Nat.pow_eq]
    push_cast
    ring

/-! ## The shortest decimal -/

/-- The size of a decimal in units. -/
def unitsOf (digits : Nat) (power : Int) : ℚ :=
  digits * 10 ^ power * unitsPerOne

theorem abs_readBack_sub_le (digits : Nat) (power : Int) :
    |(readBack digits power : ℚ) - unitsOf digits power| ≤ unitsOf digits power / 2 ^ 53 + 1 / 2 := by
  have ratio_eq := timesPowerOfTen_ratio power (digits * unitsPerOne) 1
  have positive : 0 < (timesPowerOfTen power (digits * unitsPerOne) 1).2 :=
    Nat.mul_pos Nat.one_pos (Nat.pow_pos (by omega))
  have error := abs_significant_sub_le 52
    (timesPowerOfTen power (digits * unitsPerOne) 1).1 positive
  have units_eq : ((digits * unitsPerOne : Nat) : ℚ) / (1 : Nat) * 10 ^ power =
      unitsOf digits power := by
    rw [unitsOf]
    push_cast
    ring
  rwa [ratio_eq, units_eq] at error

/-- A decimal with one digit more than `places`, of which there are at most seventeen, that is larger
than one unit and a third. -/
structure Sound (places : Nat) (decimal : Scientific) : Prop where
  /-- The first digit is not zero. -/
  low : 10 ^ places ≤ decimal.digits
  /-- There is one digit more. -/
  high : decimal.digits < 10 ^ (places + 1)
  /-- The digits fit a word. -/
  short : places ≤ 16
  /-- The decimal is not near to half a unit. -/
  large : 4 / 3 ≤ unitsOf decimal.digits (decimal.exponent - places)

/-- Digits that carry over to one digit more are shifted by one place. -/
theorem sound_carried {places digits : Nat} {exponent : Int} (low : 10 ^ places ≤ digits)
    (high : digits ≤ 10 ^ (places + 1)) (short : places ≤ 16)
    (large : 4 / 3 ≤ unitsOf digits (exponent - places)) :
    Sound places
      (if digits = Nat.pow 10 (places + 1) then
        { digits := Nat.pow 10 (places + 1 - 1), exponent := exponent + 1 }
      else
        { digits, exponent }) := by
  split
  · rename_i carried
    refine ⟨le_rfl, Nat.pow_lt_pow_right (by omega) (by omega), short, ?_⟩
    have shifted : unitsOf (10 ^ places) (exponent + 1 - places) =
        unitsOf digits (exponent - places) := by
      have power_eq : exponent + 1 - (places : Int) = exponent - places + 1 := by ring
      rw [carried, unitsOf, unitsOf, power_eq, zpow_add_one₀ (by norm_num)]
      change _ = (((10 ^ (places + 1) : Nat) : ℚ) * _ * _)
      push_cast
      ring
    exact large.trans_eq shifted.symm
  · rename_i whole
    exact ⟨low, lt_of_le_of_ne high whole, short, large⟩

/-- A positive count of units in the places of its first digits, and its integer part there. -/
theorem leading_bounds (places : Nat) (units_pos : 0 < units) :
    let power := decimalExponent units unitsPerOne - places
    let scaled := timesPowerOfTen (-power) units unitsPerOne
    0 < scaled.2 ∧ (scaled.1 : ℚ) / scaled.2 * 10 ^ power * unitsPerOne = units ∧
      10 ^ places ≤ scaled.1 / scaled.2 ∧ scaled.1 / scaled.2 < 10 ^ (places + 1) := by
  intro power scaled
  obtain ⟨low, high⟩ := decimalExponent_bounds units_pos unitsPerOne_pos
  have scaled_pos : 0 < scaled.2 :=
    Nat.mul_pos unitsPerOne_pos (Nat.pow_pos (by omega))
  have scaled_pos' : (0 : ℚ) < scaled.2 := by exact_mod_cast scaled_pos
  have ratio_eq : (scaled.1 : ℚ) / scaled.2 = units / unitsPerOne * 10 ^ (-power) :=
    timesPowerOfTen_ratio (-power) units unitsPerOne
  have shift_pos : (0 : ℚ) < 10 ^ (-power) := by positivity
  have shifted (exponent : Int) : (10 : ℚ) ^ exponent * 10 ^ (-power) =
      10 ^ (exponent - decimalExponent units unitsPerOne + places) := by
    rw [← zpow_add₀ (by norm_num)]
    congr 1
    simp only [power]
    ring
  have low' := mul_le_mul_of_nonneg_right low shift_pos.le
  have high' := mul_lt_mul_of_pos_right high shift_pos
  rw [← ratio_eq, shifted, sub_self, zero_add, zpow_natCast, le_div_iff₀ scaled_pos'] at low'
  rw [← ratio_eq, shifted, add_sub_cancel_left, add_comm 1, ← Nat.cast_succ, zpow_natCast,
    div_lt_iff₀ scaled_pos'] at high'
  refine ⟨scaled_pos, ?_, ?_, ?_⟩
  · have scale_ne := cast_unitsPerOne_pos.ne'
    rw [ratio_eq, mul_assoc (_ / _), ← zpow_add₀ (by norm_num), neg_add_cancel, zpow_zero, mul_one,
      div_mul_cancel₀ _ scale_ne]
  · rw [Nat.le_div_iff_mul_le scaled_pos]
    exact_mod_cast low'
  · rw [Nat.div_lt_iff_lt_mul scaled_pos]
    exact_mod_cast high'

/-- A decimal found for a count of units has the digits below it or the next ones, and it reads
back. -/
theorem exists_digits_of_neighbour? {count : Nat} {decimal : Scientific}
    (found : neighbour? units count = some decimal) :
    let exponent := decimalExponent units unitsPerOne
    let power := exponent - (count - 1)
    let scaled := timesPowerOfTen (-power) units unitsPerOne
    ∃ digits, (digits = scaled.1 / scaled.2 ∨ digits = scaled.1 / scaled.2 + 1) ∧
      readBack digits power = units ∧
      (if digits = Nat.pow 10 count then
        { digits := Nat.pow 10 (count - 1), exponent := exponent + 1 }
      else
        { digits, exponent }) = decimal := by
  rw [neighbour?, Option.map_eq_some_iff] at found
  obtain ⟨digits, chosen, decimal_eq⟩ := found
  -- the candidates stay folded, since splitting would compute them
  generalize candidates_eq : List.filter _ _ = candidates at chosen
  have mem : digits ∈ candidates := by
    split at chosen
    · simp only at chosen
      split at chosen
      · simp [← Option.some.inj chosen]
      · simp [← Option.some.inj chosen]
    · simp [← Option.some.inj chosen]
    · cases chosen
  rw [← candidates_eq, List.mem_filter, beq_iff_eq, List.mem_cons, List.mem_singleton] at mem
  exact ⟨digits, mem.1, mem.2, decimal_eq⟩

theorem sound_scientific (several : 2 ≤ units) : Sound 16 (scientific 17 units) := by
  obtain ⟨scaled_pos, units_eq, low, high⟩ := leading_bounds 16 (by omega : 0 < units)
  have power_eq : ((17 : Nat) : Int) - 1 - decimalExponent units unitsPerOne =
      -(decimalExponent units unitsPerOne - (16 : Nat)) := by
    push_cast
    ring
  rw [scientific, power_eq]
  generalize timesPowerOfTen (-(decimalExponent units unitsPerOne - (16 : Nat))) units
    unitsPerOne = scaled at *
  obtain ⟨nearest_ge, nearest_le⟩ := nearest_bounds scaled.1 scaled.2
  have nearest_close := (nearest_error scaled.1 scaled_pos).1
  refine sound_carried (low.trans nearest_ge) (by omega) le_rfl ?_
  generalize nearest scaled.1 scaled.2 = digits at *
  -- rounding loses one half at most, and there is at least one digit
  have digits_ge : 2 * scaled.1 ≤ 3 * (digits * scaled.2) := by
    have one_le : 1 * scaled.2 ≤ digits * scaled.2 :=
      Nat.mul_le_mul_right _ ((Nat.pow_pos (by omega)).trans_le (low.trans nearest_ge))
    omega
  have scaled_pos' : (0 : ℚ) < scaled.2 := by exact_mod_cast scaled_pos
  have ratio_le : (2 / 3 : ℚ) * (scaled.1 / scaled.2) ≤ digits := by
    rw [← mul_div_assoc, div_le_iff₀ scaled_pos']
    have digits_ge' : (2 : ℚ) * scaled.1 ≤ 3 * (digits * scaled.2) := by exact_mod_cast digits_ge
    linarith
  have several' : (2 : ℚ) ≤ units := by exact_mod_cast several
  rw [unitsOf]
  generalize decimalExponent units unitsPerOne - ((16 : Nat) : Int) = power at *
  calc
    (4 / 3 : ℚ) ≤ 2 / 3 * units := by linarith
    _ = 2 / 3 * (scaled.1 / scaled.2) * 10 ^ power * unitsPerOne := by
      rw [← units_eq]
      ring
    _ ≤ digits * 10 ^ power * unitsPerOne := by gcongr

/-- The shortest decimal of two units or more is sound. -/
theorem exists_sound_shortestScientific (several : 2 ≤ units) :
    ∃ places, Sound places (shortestScientific units) := by
  rw [shortestScientific]
  cases search : (List.range 17).findSome? fun before => neighbour? units (before + 1) with
  | none => exact ⟨16, sound_scientific several⟩
  | some decimal =>
      obtain ⟨places, places_mem, found⟩ := List.exists_of_findSome?_eq_some search
      obtain ⟨digits, near, read, rfl⟩ := exists_digits_of_neighbour? found
      have places_eq : ((places + 1 : Nat) : Int) - 1 = places := by
        push_cast
        ring
      rw [places_eq] at near read
      obtain ⟨-, -, low, high⟩ := leading_bounds places (by omega : 0 < units)
      refine ⟨places, sound_carried (by omega) (by omega) (by simp at places_mem; omega) ?_⟩
      have error := abs_readBack_sub_le digits (decimalExponent units unitsPerOne - places)
      have several' : (2 : ℚ) ≤ units := by exact_mod_cast several
      rw [read, abs_le] at error
      linarith

end Binary64

namespace WordDecimal

open Number Binary64 Text

variable {negative : Bool} {power : Int}

/-! ## Digits of a word -/

theorem asciiDigit?_digitChar {digit : Nat} (small : digit < 10) :
    asciiDigit? (Nat.digitChar digit) = some digit := by
  have each : ∀ digit < 10, asciiDigit? (Nat.digitChar digit) = some digit := by decide
  exact each digit small

theorem ofDigits_natural_of_lt {value : Nat} (small : value < 10) :
    ofDigits negative (natural value) power = { negative, significand := value, power } := by
  have room : 0 < (wordMax - 9) / 10 := by decide
  rw [ofDigits, natural, Nat.toDigits_of_lt_base small, List.filterMap_cons,
    asciiDigit?_digitChar small]
  simp [push, room]

theorem ofDigits_natural_of_le {value : Nat} (large : 10 ≤ value) :
    ofDigits negative (natural value) power =
      (ofDigits negative (natural (value / 10)) power).push (value % 10) := by
  have last_small : value % 10 < 10 := Nat.mod_lt _ (by omega)
  rw [ofDigits, natural, Nat.toDigits_of_base_le (by omega) large, List.filterMap_append,
    List.foldl_append, List.filterMap_cons, asciiDigit?_digitChar last_small]
  rfl

/-- Seventeen digits fit a word. -/
theorem ofDigits_natural {value : Nat} (small : value < 10 ^ 17) :
    ofDigits negative (natural value) power = { negative, significand := value, power } := by
  induction value using Nat.strong_induction_on with
  | _ value ih =>
      obtain last | large := Nat.lt_or_ge value 10
      · exact ofDigits_natural_of_lt last
      · have room : value / 10 < (wordMax - 9) / 10 := by
          have room_eq : (wordMax - 9) / 10 = 922337203685477579 := by decide
          omega
        rw [ofDigits_natural_of_le large, ih (value / 10) (by omega) (by omega), push, if_pos room,
          Nat.div_add_mod]

/-- The leading digits of a positive integer are not zero, and the others count as places. -/
theorem ofDigits_natural_ne_zero {value : Nat} (nonzero : value ≠ 0) (nonneg : 0 ≤ power) :
    (ofDigits negative (natural value) power).significand ≠ 0 ∧
      0 ≤ (ofDigits negative (natural value) power).power := by
  induction value using Nat.strong_induction_on with
  | _ value ih =>
      obtain last | large := Nat.lt_or_ge value 10
      · rw [ofDigits_natural_of_lt last]
        exact ⟨nonzero, nonneg⟩
      · obtain ⟨leading, places⟩ := ih (value / 10) (by omega) (by omega)
        rw [ofDigits_natural_of_le large, push]
        split
        · exact ⟨by dsimp only; omega, places⟩
        · exact ⟨leading, by dsimp only; omega⟩

/-! ## Powers of ten -/

theorem powerOfTen_bounds {exponent : Nat} (small : exponent < 342) :
    10 * powerOfTen exponent ≤ 11 * 10 ^ exponent ∧ powerOfTen exponent ≠ 0 := by
  have each : ∀ exponent < 342,
      10 * powerOfTen exponent ≤ 11 * 10 ^ exponent ∧ powerOfTen exponent ≠ 0 := by
    decide +kernel
  exact each exponent small

/-- The units of the top power. -/
def topUnits : Nat :=
  roundUnits (unitsPerOne * Nat.pow 10 308) (Nat.pow 10 0)

theorem topPower_eq : topPower = .finite false topUnits := by
  decide +kernel

theorem topUnits_bounds :
    unitsPerOne ≤ topUnits ∧ 10 * topUnits ≤ 11 * (10 ^ 308 * unitsPerOne) := by
  decide +kernel

theorem isZero_mul_topPower {number : Binary64} (nonzero : number.isZero = false) :
    (number * topPower).isZero = false := by
  have top_large := topUnits_bounds.1
  have top_ne : topUnits ≠ 0 := (unitsPerOne_pos.trans_le top_large).ne'
  rw [topPower_eq]
  change (mul _ _).isZero = false
  cases number with
  | finite negative units =>
      have units_pos : 1 ≤ units := Nat.pos_of_ne_zero (ne_of_beq_false nonzero)
      have product_ge := Nat.mul_le_mul units_pos top_large
      have scale_pos := unitsPerOne_pos
      exact isZero_rounded _ (by omega)
  | infinite negative =>
      rw [mul, if_neg top_ne]
      rfl
  | nan => rfl

/-! ## Powers taken over by the significand -/

theorem raise_ne_zero {significand : Nat} (nonzero : significand ≠ 0) (power : Nat) :
    (raise significand power).1 ≠ 0 := by
  induction power generalizing significand with
  | zero => exact nonzero
  | succ power ih =>
      rw [raise]
      split
      · exact ih (by omega)
      · exact nonzero

theorem lower_spec (significand power : Nat) :
    (lower significand power).1 ≤ significand ∧
      significand * 10 ^ (lower significand power).2 = (lower significand power).1 * 10 ^ power := by
  induction power generalizing significand with
  | zero => simp [lower]
  | succ power ih =>
      rw [lower]
      split
      · rename_i zero_last
        obtain ⟨smaller, same⟩ := ih (significand / 10)
        refine ⟨smaller.trans (Nat.div_le_self _ _), ?_⟩
        have whole : significand = significand / 10 * 10 := by omega
        rw [pow_succ, ← mul_assoc, ← same]
        nth_rewrite 1 [whole]
        ring
      · exact ⟨le_rfl, rfl⟩

/-! ## Doubles that are not zero -/

theorem isZero_multiplied {significand power : Nat} (nonzero : significand ≠ 0)
    (small : power < 342) : (multiplied negative significand power).isZero = false := by
  have product_pos : 0 < significand * powerOfTen power :=
    Nat.pos_of_ne_zero (Nat.mul_ne_zero nonzero (powerOfTen_bounds small).2)
  have rounded_ne : significant 64 (significand * powerOfTen power) 1 ≠ 0 :=
    significant_ne_zero 63 (by omega)
  have scaled_pos := Nat.mul_pos (Nat.pos_of_ne_zero rounded_ne) unitsPerOne_pos
  apply isZero_rounded
  omega

/-- A decimal that is read without a division is not zero. -/
theorem isZero_toBinary64_of_nonneg {decimal : WordDecimal} (nonzero : decimal.significand ≠ 0)
    (nonneg : 0 ≤ decimal.power) : decimal.toBinary64.isZero = false := by
  obtain ⟨power, power_eq⟩ := Int.eq_ofNat_of_zero_le nonneg
  have raised_ne := raise_ne_zero nonzero power
  rw [toBinary64, power_eq]
  simp only
  split
  · exact isZero_multiplied raised_ne (by omega)
  · split
    · exact isZero_mul_topPower (isZero_multiplied raised_ne (by omega))
    · rfl

theorem unitsOf_neg_mul (digits power : Nat) :
    unitsOf digits (-(power : Int)) * 10 ^ power = digits * unitsPerOne := by
  rw [unitsOf, zpow_neg, zpow_natCast]
  field_simp

/-- The quotient by a power of ten in squared units loses one fifth at most. -/
theorem quotient_ge {significand power : Nat} (nonzero : significand ≠ 0) (small : power < 342) :
    4 / 5 * unitsOf significand (-(power : Int)) * unitsPerOne ≤
      significant 64 (significand * (unitsPerOne * unitsPerOne)) (powerOfTen power) := by
  obtain ⟨power_le, power_ne⟩ := powerOfTen_bounds small
  have power_pos := Nat.pos_of_ne_zero power_ne
  have power_pos' : (0 : ℚ) < powerOfTen power := by exact_mod_cast power_pos
  have scale_large : 11 * (10 ^ 171 * 10 ^ 171) ≤ unitsPerOne * unitsPerOne := by decide +kernel
  have power_small : 10 ^ power ≤ 10 ^ 171 * 10 ^ 171 := by
    obtain ⟨half, rest, rfl, half_le, rest_le⟩ :
        ∃ half rest, power = half + rest ∧ half ≤ 171 ∧ rest ≤ 171 :=
      ⟨power / 2, power - power / 2, by omega, by omega, by omega⟩
    rw [Nat.pow_add]
    exact Nat.mul_le_mul (Nat.pow_le_pow_right (by omega) half_le)
      (Nat.pow_le_pow_right (by omega) rest_le)
  have numerator_ge : 10 * powerOfTen power ≤ significand * (unitsPerOne * unitsPerOne) := by
    calc
      10 * powerOfTen power ≤ 11 * 10 ^ power := power_le
      _ ≤ 11 * (10 ^ 171 * 10 ^ 171) := Nat.mul_le_mul_left 11 power_small
      _ ≤ unitsPerOne * unitsPerOne := scale_large
      _ ≤ significand * (unitsPerOne * unitsPerOne) :=
        Nat.le_mul_of_pos_left _ (Nat.pos_of_ne_zero nonzero)
  have large : (10 : ℚ) ≤
      (significand * (unitsPerOne * unitsPerOne) : Nat) / powerOfTen power := by
    rw [le_div_iff₀ power_pos']
    exact_mod_cast numerator_ge
  refine le_trans ?_ (share_le_significant (show 4 ≤ 63 by omega) power_pos large)
  rw [← mul_div_assoc, le_div_iff₀ power_pos']
  have power_le' : (powerOfTen power : ℚ) ≤ 11 / 10 * 10 ^ power := by
    have cast_le : (10 : ℚ) * powerOfTen power ≤ 11 * 10 ^ power := by exact_mod_cast power_le
    linarith
  have size_nonneg : 0 ≤ 4 / 5 * unitsOf significand (-(power : Int)) * unitsPerOne := by
    rw [unitsOf]
    positivity
  have square_nonneg : (0 : ℚ) ≤ significand * (unitsPerOne * unitsPerOne) := by positivity
  push_cast
  calc
    4 / 5 * unitsOf significand (-(power : Int)) * unitsPerOne * powerOfTen power ≤
        4 / 5 * unitsOf significand (-(power : Int)) * unitsPerOne * (11 / 10 * 10 ^ power) :=
      mul_le_mul_of_nonneg_left power_le' size_nonneg
    _ = 22 / 25 * (unitsOf significand (-(power : Int)) * 10 ^ power) * unitsPerOne := by ring
    _ = 22 / 25 * (significand * (unitsPerOne * unitsPerOne)) := by
      rw [unitsOf_neg_mul]
      ring
    _ ≤ 9 / 10 * (significand * (unitsPerOne * unitsPerOne)) := by linarith

theorem isZero_divided {significand power : Nat} (nonzero : significand ≠ 0)
    (small : power < 308) : (divided negative significand power).isZero = false := by
  have quotient := quotient_ge nonzero (by omega : power < 342)
  have scale_pos := cast_unitsPerOne_pos
  have power_le : 10 ^ power ≤ significand * unitsPerOne := by
    have scale_large : 10 ^ 307 ≤ unitsPerOne := by decide +kernel
    calc
      10 ^ power ≤ 10 ^ 307 := Nat.pow_le_pow_right (by omega) (by omega)
      _ ≤ unitsPerOne := scale_large
      _ ≤ significand * unitsPerOne := Nat.le_mul_of_pos_left _ (Nat.pos_of_ne_zero nonzero)
  have size_ge : 1 ≤ unitsOf significand (-(power : Int)) := by
    have power_le' : (10 : ℚ) ^ power ≤ significand * unitsPerOne := by exact_mod_cast power_le
    rw [← unitsOf_neg_mul] at power_le'
    exact le_of_mul_le_mul_right ((one_mul _).le.trans power_le') (by positivity)
  have scaled_ge := mul_le_mul_of_nonneg_right size_ge scale_pos.le
  have doubled : (unitsPerOne : ℚ) < 2 *
      significant 64 (significand * (unitsPerOne * unitsPerOne)) (powerOfTen power) := by
    linarith
  apply isZero_rounded
  exact_mod_cast doubled

/-- Dividing by the top power keeps a number from zero that is not near to half a unit. -/
theorem isZero_divided_div_topPower {significand power : Nat} (nonzero : significand ≠ 0)
    (high : 308 ≤ power) (small : power < 342)
    (large : 4 / 3 ≤ unitsOf significand (-(power : Int))) :
    (divided negative significand (power - 308) / topPower).isZero = false := by
  obtain ⟨top_ge, top_le⟩ := topUnits_bounds
  have top_pos := unitsPerOne_pos.trans_le top_ge
  have scale_pos := cast_unitsPerOne_pos
  have top_large : (10 : ℚ) ≤ 10 ^ 308 := le_self_pow₀ (by norm_num) (by omega)
  have top_le' : 10 * (topUnits : ℚ) ≤ 11 * (10 ^ 308 * unitsPerOne) := by exact_mod_cast top_le
  have quotient := quotient_ge nonzero (by omega : power - 308 < 342)
  have shifted : unitsOf significand (-((power - 308 : Nat) : Int)) =
      unitsOf significand (-(power : Int)) * 10 ^ 308 := by
    have power_eq : -((power - 308 : Nat) : Int) = -(power : Int) + (308 : Nat) := by omega
    rw [power_eq, unitsOf, unitsOf, zpow_add₀ (by norm_num), zpow_natCast, ← mul_assoc,
      mul_right_comm]
  rw [shifted] at quotient
  rw [topPower_eq, divided]
  generalize significant 64 (significand * (unitsPerOne * unitsPerOne))
    (powerOfTen (power - 308)) = dividend at *
  generalize unitsOf significand (-(power : Int)) = size at *
  generalize (10 : ℚ) ^ 308 = top at *
  have size_ge := mul_le_mul_of_nonneg_right large (show 0 ≤ top by linarith)
  have scaled_ge := mul_le_mul_of_nonneg_right size_ge scale_pos.le
  have ratio_ge : 16 / 15 * top ≤ (dividend : ℚ) / unitsPerOne := by
    rw [le_div_iff₀ scale_pos]
    linarith
  have share_large : (10 : ℚ) ≤ dividend / unitsPerOne := by linarith
  have share := share_le_significant (show 4 ≤ 52 by omega) unitsPerOne_pos share_large
  change (div (rounded _ _ _) _).isZero = false
  rw [rounded, roundUnits, Binary64.ofUnits]
  split
  · rw [div, if_neg top_pos.ne']
    apply isZero_rounded
    have rounded_ge : 24 / 25 * top ≤ significant 53 dividend unitsPerOne := by linarith
    have product_ge := mul_le_mul_of_nonneg_left rounded_ge scale_pos.le
    have product_pos := mul_pos scale_pos (show 0 < top by linarith)
    have doubled : (topUnits : ℚ) < 2 * (unitsPerOne * significant 53 dividend unitsPerOne) := by
      linarith
    exact_mod_cast doubled
  · rfl

/-- Giving up final zeros keeps the size. -/
theorem unitsOf_lower (significand power : Nat) :
    unitsOf (lower significand power).1 (-((lower significand power).2 : Int)) =
      unitsOf significand (-(power : Int)) := by
  have same := (lower_spec significand power).2
  have whole := unitsOf_neg_mul significand power
  have lowered := unitsOf_neg_mul (lower significand power).1 (lower significand power).2
  generalize lower significand power = result at *
  have same' : (significand : ℚ) * 10 ^ result.2 = result.1 * 10 ^ power := by exact_mod_cast same
  have power_ne : (10 : ℚ) ^ power ≠ 0 := by positivity
  have power_ne' : (10 : ℚ) ^ result.2 ≠ 0 := by positivity
  apply mul_right_cancel₀ (mul_ne_zero power_ne power_ne')
  calc
    unitsOf result.1 (-(result.2 : Int)) * (10 ^ power * 10 ^ result.2) =
        unitsOf result.1 (-(result.2 : Int)) * 10 ^ result.2 * 10 ^ power := by ring
    _ = result.1 * 10 ^ power * unitsPerOne := by
      rw [lowered]
      ring
    _ = unitsOf significand (-(power : Int)) * 10 ^ power * 10 ^ result.2 := by
      rw [← same', whole]
      ring
    _ = unitsOf significand (-(power : Int)) * (10 ^ power * 10 ^ result.2) := by ring

/-- Seventeen digits that far behind the point are smaller than one unit. -/
theorem unitsOf_lt_of_le {significand power : Nat} (short : significand < 10 ^ 17)
    (far : 342 ≤ power) : unitsOf significand (-(power : Int)) < 1 := by
  obtain ⟨rest, rfl⟩ : ∃ rest, power = rest + (171 + 171) := ⟨power - 342, by omega⟩
  have scale_small : 10 ^ 17 * unitsPerOne ≤ 10 ^ 171 * 10 ^ 171 := by decide +kernel
  have digits_small : significand * unitsPerOne < 10 ^ 171 * 10 ^ 171 :=
    (Nat.mul_lt_mul_of_pos_right short unitsPerOne_pos).trans_le scale_small
  have whole := unitsOf_neg_mul significand (rest + (171 + 171))
  have power_pos : (0 : ℚ) < 10 ^ (rest + (171 + 171)) := by positivity
  rw [← mul_lt_mul_iff_left₀ power_pos, whole, one_mul, pow_add, pow_add]
  calc
    (significand : ℚ) * unitsPerOne < 10 ^ 171 * 10 ^ 171 := by exact_mod_cast digits_small
    _ ≤ 10 ^ rest * (10 ^ 171 * 10 ^ 171) :=
      le_mul_of_one_le_left (by positivity) (one_le_pow₀ (by norm_num))

/-- A decimal of at most seventeen digits that is not near to half a unit is not read as zero. -/
theorem isZero_toBinary64 {decimal : WordDecimal} (nonzero : decimal.significand ≠ 0)
    (short : decimal.significand < 10 ^ 17)
    (large : 4 / 3 ≤ unitsOf decimal.significand decimal.power) :
    decimal.toBinary64.isZero = false := by
  cases power_eq : decimal.power with
  | ofNat power =>
      apply isZero_toBinary64_of_nonneg nonzero
      rw [power_eq]
      exact Int.natCast_nonneg power
  | negSucc before =>
      have size_eq := unitsOf_lower decimal.significand (before + 1)
      obtain ⟨smaller, same⟩ := lower_spec decimal.significand (before + 1)
      have power_eq' : Int.negSucc before = -((before + 1 : Nat) : Int) := rfl
      rw [power_eq, power_eq', ← size_eq] at large
      rw [toBinary64, power_eq]
      simp only
      generalize lower decimal.significand (before + 1) = result at *
      have lowered_ne : result.1 ≠ 0 := by
        intro none
        rw [none, Nat.zero_mul] at same
        exact Nat.mul_ne_zero nonzero (Nat.pow_pos (by omega)).ne' same
      split
      · exact isZero_divided lowered_ne (by omega)
      · split
        · exact isZero_divided_div_topPower lowered_ne (by omega) (by omega) large
        · have below := unitsOf_lt_of_le (smaller.trans_lt short) (by omega : 342 ≤ result.2)
          linarith

/-- The decimal of an integer is read as zero only if the integer is. -/
theorem isZero_toBinary64_ofInt {value : Int} (nonzero : value ≠ 0) :
    (ofInt value).toBinary64.isZero = false := by
  obtain ⟨significand_ne, power_nonneg⟩ :
      (ofInt value).significand ≠ 0 ∧ 0 ≤ (ofInt value).power :=
    ofDigits_natural_ne_zero (Int.natAbs_ne_zero.mpr nonzero) le_rfl
  exact isZero_toBinary64_of_nonneg significand_ne power_nonneg

/-- The digits of a sound decimal are not read as zero. -/
theorem isZero_toBinary64_of_sound {places : Nat} {decimal : Scientific}
    (sound : Sound places decimal) :
    (ofDigits negative (natural decimal.digits)
      (decimal.exponent + 1 - (natural decimal.digits).length)).toBinary64.isZero = false := by
  have short : decimal.digits < 10 ^ 17 :=
    sound.high.trans_le (Nat.pow_le_pow_right (by omega) (Nat.succ_le_succ sound.short))
  have power_eq : decimal.exponent + 1 - ((places + 1 : Nat) : Int) =
      decimal.exponent - places := by
    rw [Nat.cast_succ]
    ring
  have digits_ne : decimal.digits ≠ 0 :=
    ((Nat.pow_pos (by omega)).trans_le sound.low).ne'
  rw [length_natural sound.low sound.high, ofDigits_natural short, power_eq]
  exact isZero_toBinary64 digits_ne short sound.large

/-- The shortest decimal of a double is read as zero exactly if the double is. -/
theorem isZero_toBinary64_ofUnits (negative : Bool) (units : Nat) :
    (ofUnits negative units).toBinary64.isZero = (units == 0) := by
  match units with
  | 0 => cases negative <;> decide +kernel
  | 1 => cases negative <;> decide +kernel
  | units + 2 =>
      obtain ⟨places, sound⟩ := exists_sound_shortestScientific (by omega : 2 ≤ units + 2)
      exact isZero_toBinary64_of_sound sound

end WordDecimal
end ChessDrawing
