import ChessDrawing.Number.Places
import ChessDrawing.Proofs.Number.Arithmetic

/-!
# Rounding twice

A double that is rounded to a hundredth and then to a double again is still rounded to the same
hundredth.  Below `2 ^ 46` the double that is nearest to a hundredth is nearer to it than to any
other.  From there on the doubles lie farther apart than the hundredths, so that the nearest
hundredth of a double is rounded back to the double itself.
-/

namespace ChessDrawing
namespace Number

variable {bits number numerator denominator quotient : Nat}

theorem nearest_zero (denominator : Nat) : nearest 0 denominator = 0 := by
  cases denominator <;> simp [nearest]

/-- A quotient that is less than one half away from an integer is rounded to it. -/
theorem nearest_eq_of_close
    (below : 2 * (quotient * denominator) < 2 * numerator + denominator)
    (above : 2 * numerator < 2 * (quotient * denominator) + denominator) :
    nearest numerator denominator = quotient := by
  have positive : 0 < denominator := by omega
  obtain ⟨low, high⟩ := nearest_error numerator positive
  obtain less | same | greater := Nat.lt_trichotomy (nearest numerator denominator) quotient
  · have apart := Nat.mul_le_mul_right denominator (Nat.succ_le_of_lt less)
    rw [Nat.succ_mul] at apart
    omega
  · exact same
  · have apart := Nat.mul_le_mul_right denominator (Nat.succ_le_of_lt greater)
    rw [Nat.succ_mul] at apart
    omega

/-! ## Short numbers -/

/-- The number has at most one more significant bit than `bits`. -/
def IsShort (bits number : Nat) : Prop :=
  gap bits number ∣ number

theorem isShort_mul_pow {digits : Nat} (small : digits < 2 ^ (bits + 1)) (exponent : Nat) :
    IsShort bits (digits * 2 ^ exponent) := by
  by_cases zero : digits = 0
  · simp [IsShort, zero]
  · have nonzero : digits * 2 ^ exponent ≠ 0 :=
      Nat.mul_ne_zero zero (Nat.two_pow_pos exponent).ne'
    have log_lt : (digits * 2 ^ exponent).log2 < bits + 1 + exponent := by
      rw [Nat.log2_lt nonzero, Nat.pow_add]
      exact Nat.mul_lt_mul_of_pos_right small (Nat.two_pow_pos exponent)
    exact (Nat.pow_dvd_pow 2 (by omega)).trans (Nat.dvd_mul_left _ digits)

theorem gap_dvd_pow_log2 (bits number : Nat) : gap bits number ∣ 2 ^ number.log2 :=
  Nat.pow_dvd_pow 2 (Nat.sub_le _ _)

theorem gap_le_of_lt {exponent : Nat} (small : quotient < 2 ^ (bits + 1) * 2 ^ exponent) :
    gap bits quotient ≤ 2 ^ exponent := by
  rw [← Nat.pow_add] at small
  apply Nat.pow_le_pow_right Nat.two_pos
  by_cases zero : quotient = 0
  · simp [zero]
  · have log_lt := (Nat.log2_lt zero).mpr small
    omega

theorem add_le_of_dvd_of_lt {step left right : Nat} (left_dvd : step ∣ left)
    (right_dvd : step ∣ right) (less : left < right) : left + step ≤ right := by
  have apart := Nat.le_of_dvd (Nat.sub_pos_of_lt less) (Nat.dvd_sub right_dvd left_dvd)
  omega

/-- A short number below a power of two is below it by a gap. -/
theorem IsShort.add_pow_le (short : IsShort bits number) (exponent : Nat)
    (small : number < 2 ^ (bits + 1) * 2 ^ exponent) :
    number + 2 ^ exponent ≤ 2 ^ (bits + 1) * 2 ^ exponent := by
  rw [← Nat.pow_add] at small ⊢
  obtain low | high := Nat.lt_or_ge number (2 ^ (bits + exponent))
  · have double : 2 ^ (bits + 1 + exponent) = 2 * 2 ^ (bits + exponent) := by ring
    have power_le : 2 ^ exponent ≤ 2 ^ (bits + exponent) :=
      Nat.pow_le_pow_right Nat.two_pos (Nat.le_add_left _ _)
    omega
  · have nonzero : number ≠ 0 := ((Nat.two_pow_pos _).trans_le high).ne'
    have log_ge : bits + exponent ≤ number.log2 := (Nat.le_log2 nonzero).mpr high
    have step_dvd : 2 ^ exponent ∣ number :=
      (Nat.pow_dvd_pow 2 (by omega)).trans short
    exact add_le_of_dvd_of_lt step_dvd (Nat.pow_dvd_pow 2 (Nat.le_add_left _ _)) small

/-- A short number is a whole number of its gaps. -/
theorem IsShort.mul_eq (short : IsShort bits number) (denominator : Nat) :
    number * denominator =
      number / gap bits number * (denominator * gap bits number) := by
  rw [Nat.mul_comm denominator, ← Nat.mul_assoc, Nat.div_mul_cancel short]

/-- A short number is left as it is. -/
theorem IsShort.significant_eq (short : IsShort bits number) (positive : 0 < denominator) :
    significant (bits + 1) (number * denominator) denominator = number := by
  rw [Number.significant_eq, Nat.mul_div_cancel _ positive, short.mul_eq,
    nearest_mul _ (Nat.mul_pos positive (gap_pos _ _)), Nat.div_mul_cancel short]

/-- Rounding to significant bits gives a short number. -/
theorem isShort_significant (bits numerator denominator : Nat) :
    IsShort bits (significant (bits + 1) numerator denominator) := by
  have quotient_lt : numerator / denominator < 2 ^ (bits + 1) * gap bits (numerator / denominator) := by
    rw [gap, ← Nat.pow_add]
    exact Nat.lt_log2_self.trans_le (Nat.pow_le_pow_right Nat.two_pos (by omega))
  have share_lt := (Nat.div_lt_iff_lt_mul (gap_pos bits (numerator / denominator))).mpr quotient_lt
  have count_le := (nearest_bounds numerator (denominator * gap bits (numerator / denominator))).2
  rw [← Nat.div_div_eq_div_mul] at count_le
  rw [Number.significant_eq]
  obtain less | carried := Nat.lt_or_eq_of_le (count_le.trans share_lt)
  · exact isShort_mul_pow less _
  · -- the digits are carried over to the next power of two
    rw [carried, gap, ← Nat.pow_add, ← Nat.one_mul (2 ^ _)]
    exact isShort_mul_pow (Nat.one_lt_two_pow (Nat.succ_ne_zero bits)) _

/-- A quotient within half a gap of a short number is rounded to it.  A power of two is left out,
since the gap below it is smaller. -/
theorem IsShort.significant_of_close (short : IsShort bits number)
    (above_power : 2 ^ number.log2 < number)
    (below : 2 * (number * denominator) < 2 * numerator + denominator * gap bits number)
    (above : 2 * numerator < 2 * (number * denominator) + denominator * gap bits number) :
    significant (bits + 1) numerator denominator = number := by
  have positive : 0 < denominator := by
    by_contra zero
    simp [Nat.eq_zero_of_not_pos zero] at above
  have low : 2 ^ number.log2 + gap bits number ≤ number :=
    add_le_of_dvd_of_lt (gap_dvd_pow_log2 _ _) short above_power
  have high : number + gap bits number ≤ 2 ^ (number.log2 + 1) :=
    add_le_of_dvd_of_lt short ((gap_dvd_pow_log2 _ _).trans (Nat.pow_dvd_pow 2 (Nat.le_succ _)))
      Nat.lt_log2_self
  have low_product := Nat.mul_le_mul_right denominator low
  have high_product := Nat.mul_le_mul_right denominator high
  rw [Nat.add_mul, Nat.mul_comm (gap bits number)] at low_product high_product
  have quotient_ge : 2 ^ number.log2 ≤ numerator / denominator := by
    rw [Nat.le_div_iff_mul_le positive]
    omega
  have quotient_lt : numerator / denominator < 2 ^ (number.log2 + 1) := by
    rw [Nat.div_lt_iff_lt_mul positive]
    omega
  have same_gap : gap bits (numerator / denominator) = gap bits number := by
    have same_log : (numerator / denominator).log2 = number.log2 := by
      rw [Nat.log2_eq_iff ((Nat.two_pow_pos _).trans_le quotient_ge).ne']
      exact ⟨quotient_ge, quotient_lt⟩
    rw [gap, gap, same_log]
  rw [short.mul_eq] at below above
  rw [Number.significant_eq, same_gap, nearest_eq_of_close below above, Nat.div_mul_cancel short]

/-! ## Hundredths -/

/-- A short number rounded to a hundredth of a unit, in units again. -/
def throughHundredths (unit number : Nat) : Nat :=
  significant 53 (unit * nearest (100 * number) unit) 100

variable {exponent : Nat}

/-- A number of at least `2 ^ 46` units is rounded back to itself. -/
theorem throughHundredths_of_large (short : IsShort 52 number)
    (large : 2 ^ 53 * 2 ^ exponent ≤ number) :
    throughHundredths (2 ^ (exponent + 7)) number = number := by
  have unit_pos : 0 < 2 ^ (exponent + 7) := Nat.two_pow_pos _
  by_cases whole : 2 ^ (exponent + 7) ∣ number
  · obtain ⟨count, rfl⟩ := whole
    have hundredths : nearest (100 * (2 ^ (exponent + 7) * count)) (2 ^ (exponent + 7)) =
        100 * count := by
      rw [Nat.mul_comm (2 ^ (exponent + 7)), ← Nat.mul_assoc]
      exact nearest_mul _ unit_pos
    rw [throughHundredths, hundredths, Nat.mul_left_comm, Nat.mul_comm 100]
    exact short.significant_eq (by decide)
  · -- the number is not whole, so that it is no power of two
    rw [← Nat.pow_add] at large
    have nonzero : number ≠ 0 := ((Nat.two_pow_pos _).trans_le large).ne'
    have log_ge : 53 + exponent ≤ number.log2 := (Nat.le_log2 nonzero).mpr large
    have above_power : 2 ^ number.log2 < number := by
      refine lt_of_le_of_ne (Nat.log2_self_le nonzero) fun power => whole ?_
      rw [← power]
      exact Nat.pow_dvd_pow 2 (by omega)
    have gap_ge : 2 ^ (exponent + 1) ≤ gap 52 number :=
      Nat.pow_le_pow_right Nat.two_pos (by omega)
    have unit_eq : 2 ^ (exponent + 7) = 64 * 2 ^ (exponent + 1) := by ring
    obtain ⟨low, high⟩ := nearest_error (100 * number) unit_pos
    rw [Nat.mul_comm (nearest _ _)] at low high
    apply short.significant_of_close above_power
    · omega
    · omega

/-- A number of less than `2 ^ 46` units keeps its nearest hundredth. -/
theorem nearest_throughHundredths_of_small (short : IsShort 52 number)
    (small : number < 2 ^ 53 * 2 ^ exponent) :
    nearest (100 * throughHundredths (2 ^ (exponent + 7)) number) (2 ^ (exponent + 7)) =
      nearest (100 * number) (2 ^ (exponent + 7)) := by
  have unit_eq : 2 ^ (exponent + 7) = 128 * 2 ^ exponent := by ring
  have apart := short.add_pow_le exponent small
  obtain ⟨low, high⟩ := nearest_error (100 * number) (Nat.two_pow_pos (exponent + 7))
  rw [Nat.mul_comm (nearest _ _)] at low high
  rw [throughHundredths, significant_eq]
  generalize nearest (100 * number) (2 ^ (exponent + 7)) = hundredths at *
  have quotient_lt : 2 ^ (exponent + 7) * hundredths / 100 < 2 ^ 53 * 2 ^ exponent := by
    omega
  have gap_le : gap 52 (2 ^ (exponent + 7) * hundredths / 100) ≤ 2 ^ exponent :=
    gap_le_of_lt quotient_lt
  have gap_positive := gap_pos 52 (2 ^ (exponent + 7) * hundredths / 100)
  obtain ⟨low', high'⟩ := nearest_error (2 ^ (exponent + 7) * hundredths)
    (Nat.mul_pos (by decide : 0 < 100) gap_positive)
  generalize gap 52 (2 ^ (exponent + 7) * hundredths / 100) = step at *
  generalize nearest (2 ^ (exponent + 7) * hundredths) (100 * step) = count at *
  rw [Nat.mul_left_comm count] at low' high'
  apply nearest_eq_of_close
  · rw [Nat.mul_comm hundredths]
    omega
  · rw [Nat.mul_comm hundredths]
    omega

/-- A short number rounded to a hundredth and then to significant bits keeps its nearest
hundredth. -/
theorem nearest_throughHundredths (short : IsShort 52 number) (exponent : Nat) :
    nearest (100 * throughHundredths (2 ^ (exponent + 7)) number) (2 ^ (exponent + 7)) =
      nearest (100 * number) (2 ^ (exponent + 7)) := by
  obtain small | large := Nat.lt_or_ge number (2 ^ 53 * 2 ^ exponent)
  · exact nearest_throughHundredths_of_small short small
  · rw [throughHundredths_of_large short large]

end Number

/-! ## Doubles -/

namespace Binary64

open Number

variable {negative : Bool} {units : Nat}

theorem largestGap_eq : largestGap = 2 ^ 2045 := by
  decide +kernel

theorem pow_le_largestGap {exponent : Nat} (small : exponent ≤ 2045) :
    2 ^ exponent ≤ largestGap := by
  have power_le := Nat.pow_le_pow_right Nat.two_pos small
  rwa [largestGap_eq]

theorem unitLimit_eq : unitLimit = 2 ^ 53 * largestGap := by
  decide +kernel

/-- A finite number that 64 bits encode has 53 significant bits. -/
theorem isShort_of_ofBits {bits : BitVec 64} (decoded : ofBits bits = .finite negative units) :
    IsShort 52 units ∧ units < unitLimit := by
  have fraction_lt : bits.toNat % 2 ^ 52 < 2 ^ 52 := Nat.mod_lt _ (Nat.two_pow_pos 52)
  have exponent_lt : bits.toNat / 2 ^ 52 % 2 ^ 11 < 2 ^ 11 := Nat.mod_lt _ (Nat.two_pow_pos 11)
  simp only [ofBits, Nat.pow_eq] at decoded
  generalize bits.toNat / 2 ^ 52 % 2 ^ 11 = exponent at *
  generalize bits.toNat % 2 ^ 52 = fraction at *
  split_ifs at decoded with special infinity small
  · obtain ⟨-, rfl⟩ := finite.inj decoded
    have limit_ge : 2 ^ 52 ≤ unitLimit := by decide +kernel
    refine ⟨?_, fraction_lt.trans_le limit_ge⟩
    rw [← Nat.mul_one fraction, ← Nat.pow_zero 2]
    exact isShort_mul_pow (fraction_lt.trans (by decide)) 0
  · obtain ⟨-, rfl⟩ := finite.inj decoded
    have digits_lt : 2 ^ 52 + fraction < 2 ^ 53 := by omega
    have power_le : 2 ^ (exponent - 1) ≤ largestGap := pow_le_largestGap (by omega)
    refine ⟨isShort_mul_pow digits_lt _, ?_⟩
    rw [unitLimit_eq]
    exact Nat.mul_lt_mul_of_lt_of_le digits_lt power_le largestGap_pos

theorem throughHundredths_lt_unitLimit (short : IsShort 52 units) (in_range : units < unitLimit) :
    throughHundredths unitsPerOne units < unitLimit := by
  have apart : units + largestGap ≤ 2 ^ 53 * largestGap := by
    have gap_eq : ∃ exponent, largestGap = 2 ^ exponent := ⟨2045, largestGap_eq⟩
    obtain ⟨exponent, gap_eq⟩ := gap_eq
    rw [unitLimit_eq, gap_eq] at in_range
    rw [gap_eq]
    exact short.add_pow_le exponent in_range
  have unit_le : unitsPerOne ≤ largestGap := by decide +kernel
  have gap_positive := largestGap_pos
  obtain ⟨-, high⟩ := nearest_error (100 * units) unitsPerOne_pos
  rw [Nat.mul_comm (nearest _ _)] at high
  refine (roundUnits_lt_unitLimit_iff (by decide)).mpr ?_
  omega

theorem toHundredth_finite (short : IsShort 52 units) (in_range : units < unitLimit) :
    (finite negative units).toHundredth = .finite negative (throughHundredths unitsPerOne units) :=
  if_pos (throughHundredths_lt_unitLimit short in_range)

/-- The double nearest to the nearest hundredth has the same nearest hundredth. -/
theorem steps_throughHundredths (short : IsShort 52 units) :
    steps 2 (throughHundredths unitsPerOne units) = steps 2 units := by
  have unit_eq : unitsPerOne = 2 ^ (1067 + 7) := by decide +kernel
  have kept := nearest_throughHundredths short 1067
  rwa [← unit_eq] at kept

theorem throughHundredths_eq_zero_iff (short : IsShort 52 units) :
    throughHundredths unitsPerOne units = 0 ↔ steps 2 units = 0 := by
  constructor
  · intro zero
    rw [← steps_throughHundredths short, zero, steps, Nat.mul_zero, nearest_zero]
  · intro zero
    change significant 53 (unitsPerOne * steps 2 units) 100 = 0
    rw [zero, significant_eq, Nat.mul_zero, nearest_zero, Nat.zero_mul]

/-- Adding zero to a number of 53 significant bits changes nothing but the sign of zero. -/
theorem add_zero_finite (short : IsShort 52 units) (in_range : units < unitLimit) :
    (finite negative units) + .finite false 0 = .finite (negative && units != 0) units := by
  change add _ _ = _
  have rounds : significant 53 (units * 1) 1 = units := short.significant_eq Nat.one_pos
  have size : (signed negative units).natAbs = units := by cases negative <;> simp [signed]
  have zero_iff : signed negative units = 0 ↔ units = 0 := by rw [← Int.natAbs_eq_zero, size]
  have sum_eq : signed negative units + signed false 0 = signed negative units := by simp [signed]
  rw [add, sum_eq]
  by_cases zero : units = 0
  · rw [if_pos (zero_iff.mpr zero), zero]
    cases negative <;> rfl
  · rw [if_neg (mt zero_iff.mp zero), rounded, roundUnits, size, ← Nat.mul_one units, rounds,
      ofUnits, if_pos in_range]
    have positive : 0 < units := Nat.pos_of_ne_zero zero
    cases negative <;> simp [signed, zero, positive]

theorem toHundredth_add_zero (short : IsShort 52 units) (in_range : units < unitLimit) :
    (finite negative units).toHundredth + .finite false 0 =
      .finite (negative && steps 2 units != 0) (throughHundredths unitsPerOne units) := by
  have short' : IsShort 52 (throughHundredths unitsPerOne units) := isShort_significant 52 _ _
  rw [toHundredth_finite short in_range,
    add_zero_finite short' (throughHundredths_lt_unitLimit short in_range)]
  have same_zero : (throughHundredths unitsPerOne units != 0) = (steps 2 units != 0) := by
    rw [Bool.eq_iff_iff, bne_iff_ne, bne_iff_ne, ne_eq, ne_eq, throughHundredths_eq_zero_iff short]
  rw [same_zero]

end Binary64
end ChessDrawing
