import ChessDrawing.Settings.Reading
import Mathlib

/-!
# Agreement of values

A text agrees with itself only, and an integer with the numbers of its exact size.  A value that
agrees with an integer may be a truth value or a double; when it is read as an integer, it is that
one.
-/

namespace ChessDrawing
namespace Binary64

/-- A finite double that is an integer has the size of that integer. -/
theorem signed_of_integer? {negative : Bool} {units : Nat} {result : Int}
    (whole : (finite negative units).integer? = some result) :
    signed negative units = result * unitsPerOne := by
  simp only [integer?, Option.ite_none_right_eq_some, Option.some.injEq] at whole
  obtain ⟨divides, rfl⟩ := whole
  have units_eq : units / unitsPerOne * unitsPerOne = units :=
    Nat.div_mul_cancel (Nat.dvd_of_mod_eq_zero divides)
  cases negative with
  | false =>
      simp only [signed, Bool.false_eq_true, if_false]
      rw [← Int.natCast_mul, units_eq]
  | true =>
      simp only [signed, if_true]
      rw [Int.neg_mul, ← Int.natCast_mul, units_eq]

/-- A finite double of the size of an integer is that integer. -/
theorem integer?_of_signed {negative : Bool} {units : Nat} {number : Int}
    (size_eq : signed negative units = number * unitsPerOne) :
    (finite negative units).integer? = some number := by
  have units_eq : units = number.natAbs * unitsPerOne := by
    have sizes := congrArg Int.natAbs size_eq
    cases negative <;> simpa [signed, Int.natAbs_mul] using sizes
  have scaled : signed negative units = signed negative number.natAbs * unitsPerOne := by
    rw [units_eq]
    cases negative <;> simp [signed]
  have sign_eq : signed negative number.natAbs = number :=
    Int.eq_of_mul_eq_mul_right (Int.natCast_ne_zero_iff_pos.mpr unitsPerOne_pos)
      (scaled.symm.trans size_eq)
  rw [units_eq, integer?, Nat.mul_mod_left, if_pos rfl, Nat.mul_div_cancel _ unitsPerOne_pos,
    sign_eq]

end Binary64

namespace Value

theorem readText_eq_ok_iff {value : Value} {text : String} :
    value.readText = .ok text ↔ value = .text text := by
  cases value <;> simp [readText]

/-! ## Agreement -/

theorem isSameNumber_text (text : String) (other : Value) :
    (Value.text text).isSameNumber other = false := by
  have no_size : (Value.text text).units? = none := rfl
  unfold isSameNumber
  rw [no_size]
  cases other.units? <;> rfl

theorem isSameNumber_object (fields : List (String × Value)) (other : Value) :
    (Value.object fields).isSameNumber other = false := by
  have no_size : (Value.object fields).units? = none := rfl
  unfold isSameNumber
  rw [no_size]
  cases other.units? <;> rfl

theorem eq_text_of_agrees {text : String} {stored : Value}
    (agree : (Value.text text).agrees stored = true) : stored = .text text := by
  cases stored with
  | text other =>
      rw [agrees, beq_iff_eq] at agree
      rw [agree]
  | _ => simp only [agrees, isSameNumber_text, Bool.false_eq_true] at agree

theorem agrees_integer_iff {number : Int} {stored : Value} :
    (Value.integer number).agrees stored = true ↔
      stored.units? = some (number * Binary64.unitsPerOne) := by
  have sizes (size : Int) : (number * Binary64.unitsPerOne == size) = true ↔
      some size = some (number * (Binary64.unitsPerOne : Int)) := by
    rw [beq_iff_eq, Option.some.injEq, eq_comm]
  cases stored with
  | bool value => exact sizes _
  | integer value => exact sizes _
  | real value =>
      cases value with
      | finite negative units => exact sizes _
      | _ => simp only [agrees, isSameNumber, units?, reduceCtorEq]
  | _ => simp only [agrees, isSameNumber, units?, reduceCtorEq]

/-- A number that is read as an integer has the size of that integer. -/
theorem units?_of_readInteger {stored : Value} {size result : Int}
    (has_size : stored.units? = some size) (read : stored.readInteger = .ok result) :
    size = result * Binary64.unitsPerOne := by
  cases stored with
  | bool value =>
      obtain rfl := Option.some.inj has_size
      obtain rfl := Except.ok.inj read
      cases value with
      | false => exact (Int.zero_mul _).symm
      | true => exact (Int.one_mul _).symm
  | integer value =>
      obtain rfl := Option.some.inj has_size
      obtain rfl := Except.ok.inj read
      rfl
  | real value =>
      cases value with
      | finite negative units =>
          simp only [units?, Option.some.injEq] at has_size
          simp only [readInteger, integerOfReal] at read
          split at read
          · rename_i whole
            split at read
            · obtain rfl := Except.ok.inj read
              rw [← has_size]
              exact Binary64.signed_of_integer? whole
            · cases read
          · cases read
          · cases read
      | _ => simp [units?] at has_size
  | _ => simp [units?] at has_size

/-- A value that agrees with an integer is read as that integer or not at all. -/
theorem eq_of_agrees_integer {number result : Int} {stored : Value}
    (agree : (Value.integer number).agrees stored = true)
    (read : stored.readInteger = .ok result) : result = number := by
  have sizes := units?_of_readInteger (agrees_integer_iff.mp agree) read
  have nonzero : (Binary64.unitsPerOne : Int) ≠ 0 :=
    Int.natCast_ne_zero_iff_pos.mpr Binary64.unitsPerOne_pos
  exact (Int.eq_of_mul_eq_mul_right nonzero sizes).symm

/-- A value that agrees with an integer is read as that integer, but for a double of 64 bits. -/
theorem readInteger_eq_ok_iff_of_agrees {number : Int} {stored : Value}
    (agree : (Value.integer number).agrees stored = true) :
    stored.readInteger = .ok number ↔
      ∀ double, stored = .real double → number.natAbs < Nat.pow 2 63 := by
  have scale_pos := Binary64.unitsPerOne_pos
  have scale_ne : (Binary64.unitsPerOne : Int) ≠ 0 := Int.natCast_ne_zero_iff_pos.mpr scale_pos
  rw [agrees_integer_iff] at agree
  cases stored with
  | bool value =>
      have one_or_zero : (if value then 1 else 0) * (Binary64.unitsPerOne : Int) =
          number * Binary64.unitsPerOne := by
        rw [← Option.some.inj agree]
        cases value <;> simp
      simp [readInteger, Int.eq_of_mul_eq_mul_right scale_ne one_or_zero]
  | integer value =>
      simp [readInteger, Int.eq_of_mul_eq_mul_right scale_ne (Option.some.inj agree)]
  | real value =>
      cases value with
      | finite negative units =>
          have size_eq : Binary64.signed negative units = number * Binary64.unitsPerOne :=
            Option.some.inj agree
          have whole := Binary64.integer?_of_signed size_eq
          simp [readInteger, integerOfReal, whole]
      | _ => cases agree
  | _ => cases agree

theorem agreesFields_cons_iff {key : String} {value : Value}
    {fields others : List (String × Value)} :
    agreesFields ((key, value) :: fields) others = true ↔
      (∃ stored, others.lookup key = some stored ∧ value.agrees stored = true) ∧
        agreesFields fields others = true := by
  rw [agreesFields, Bool.and_eq_true, Option.any_eq_true]

end Value
end ChessDrawing
