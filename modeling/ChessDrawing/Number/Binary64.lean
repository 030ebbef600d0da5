import ChessDrawing.Number.Nearest

/-!
# Double-precision numbers

A finite double is a sign and a count of units of `2 ^ -1074`, the least positive double.  An
operation computes its exact result and rounds once, to 53 significant bits with ties to even; a
result of `2 ^ 1024` or more is infinite.  The sign of zero is kept.  In a product of units and a
fixed scale the scale stands first, since multiplication unfolds its second factor, and the two
scales stay folded, since they are too large to be compared with an unknown count step by step.
-/

namespace ChessDrawing

/-- A double-precision binary floating-point number. -/
inductive Binary64 where
  /-- A number of size `units * 2 ^ -1074`. -/
  | finite (negative : Bool) (units : Nat)
  /-- An infinity. -/
  | infinite (negative : Bool)
  /-- No number. -/
  | nan
  deriving DecidableEq

namespace Binary64

/-- Units in the number one. -/
@[irreducible]
def unitsPerOne : Nat :=
  Nat.pow 2 1074

theorem unitsPerOne_pos : 0 < unitsPerOne := by
  unfold unitsPerOne
  apply Nat.two_pow_pos

/-- The least count of units that is too large for a finite number. -/
@[irreducible]
def unitLimit : Nat :=
  Nat.pow 2 2098

/-- An exact quotient of units rounded to 53 significant bits. -/
def roundUnits (numerator denominator : Nat) : Nat :=
  Number.significant 53 numerator denominator

/-- The square root of a count of squared units rounded to 53 significant bits. -/
def rootUnits (radicand : Nat) : Nat :=
  let step := Nat.pow 2 (radicand.log2 / 2 + 1 - 53)
  Number.nearestRoot radicand (step * step) * step

/-- The number with a rounded count of units. -/
def ofUnits (negative : Bool) (units : Nat) : Binary64 :=
  if units < unitLimit then .finite negative units else .infinite negative

/-- The double nearest to a quotient of units. -/
def rounded (negative : Bool) (numerator denominator : Nat) : Binary64 :=
  ofUnits negative (roundUnits numerator denominator)

/-- A sign and a size as an integer. -/
def signed (negative : Bool) (units : Nat) : Int :=
  if negative then -(units : Int) else units

/-- The double nearest to a quotient of integers, if it is finite. -/
def ofQuotient? (numerator : Int) (denominator : Nat) : Option Binary64 :=
  match rounded (numerator < 0) (unitsPerOne * numerator.natAbs) denominator with
  | .finite negative units => some (.finite negative units)
  | _ => none

/-- The double nearest to an integer, if it is finite. -/
def ofInt? (value : Int) : Option Binary64 :=
  ofQuotient? value 1

/-- The double nearest to `digits / 10 ^ places`. -/
def ofDecimal (digits places : Nat) : Binary64 :=
  rounded false (unitsPerOne * digits) (Nat.pow 10 places)

/-- The number that 64 bits encode: a sign, eleven bits of exponent and a fraction. -/
def ofBits (bits : BitVec 64) : Binary64 :=
  let negative := Nat.pow 2 63 ≤ bits.toNat
  let exponent := bits.toNat / Nat.pow 2 52 % Nat.pow 2 11
  let fraction := bits.toNat % Nat.pow 2 52
  if exponent = 2047 then
    if fraction = 0 then .infinite negative else .nan
  else if exponent = 0 then
    .finite negative fraction
  else
    .finite negative ((Nat.pow 2 52 + fraction) * Nat.pow 2 (exponent - 1))

/-! ## Arithmetic -/

/-- The number with the other sign. -/
def neg : Binary64 → Binary64
  | .finite negative units => .finite (!negative) units
  | .infinite negative => .infinite (!negative)
  | .nan => .nan

/-- The rounded sum; a sum of zero is positive unless both numbers are negative. -/
def add : Binary64 → Binary64 → Binary64
  | .finite negative units, .finite negative' units' =>
      let sum := signed negative units + signed negative' units'
      if sum = 0 then
        .finite (negative && negative') 0
      else
        rounded (sum < 0) sum.natAbs 1
  | .infinite negative, .infinite negative' =>
      if negative = negative' then .infinite negative else .nan
  | .infinite negative, .finite _ _ => .infinite negative
  | .finite _ _, .infinite negative => .infinite negative
  | _, _ => .nan

/-- The rounded difference. -/
def sub (left right : Binary64) : Binary64 :=
  left.add right.neg

/-- The rounded product. -/
def mul : Binary64 → Binary64 → Binary64
  | .finite negative units, .finite negative' units' =>
      rounded (negative != negative') (units * units') unitsPerOne
  | .infinite negative, .finite negative' units
  | .finite negative' units, .infinite negative =>
      if units = 0 then .nan else .infinite (negative != negative')
  | .infinite negative, .infinite negative' => .infinite (negative != negative')
  | _, _ => .nan

/-- The rounded quotient; dividing by zero gives an infinity, or no number from zero. -/
def div : Binary64 → Binary64 → Binary64
  | .finite negative units, .finite negative' units' =>
      if units' = 0 then
        if units = 0 then .nan else .infinite (negative != negative')
      else
        rounded (negative != negative') (unitsPerOne * units) units'
  | .infinite negative, .finite negative' _ => .infinite (negative != negative')
  | .finite negative _, .infinite negative' => .finite (negative != negative') 0
  | _, _ => .nan

instance : Neg Binary64 := ⟨neg⟩

instance : Add Binary64 := ⟨add⟩

instance : Sub Binary64 := ⟨sub⟩

instance : Mul Binary64 := ⟨mul⟩

instance : Div Binary64 := ⟨div⟩

/-- The number one. -/
def one : Binary64 :=
  .finite false unitsPerOne

/-- The number two. -/
def two : Binary64 :=
  .finite false (2 * unitsPerOne)

/-- The rounded square root; a negative number has none. -/
def root : Binary64 → Binary64
  | .finite negative units =>
      if units = 0 then
        .finite negative 0
      else if negative then
        .nan
      else
        ofUnits false (rootUnits (unitsPerOne * units))
  | .infinite false => .infinite false
  | _ => .nan

/-- The integer that a number is. -/
def integer? : Binary64 → Option Int
  | .finite negative units =>
      if units % unitsPerOne = 0 then some (signed negative (units / unitsPerOne)) else none
  | _ => none

/-- Whether a number is zero of either sign. -/
def isZero : Binary64 → Bool
  | .finite _ units => units == 0
  | _ => false

/-- Whether a number is strictly less than another; nothing is less than no number. -/
def less : Binary64 → Binary64 → Bool
  | .finite negative units, .finite negative' units' =>
      signed negative units < signed negative' units'
  | .infinite negative, .finite _ _ => negative
  | .finite _ _, .infinite negative => !negative
  | .infinite negative, .infinite negative' => negative && !negative'
  | _, _ => false

end Binary64
end ChessDrawing
