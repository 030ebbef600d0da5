/-!
# Nearest integers

Exact quotients and square roots of natural numbers are rounded to the nearest integer here, a tie
going to the even neighbour.  Every rounding of this library is one of these two.
-/

namespace ChessDrawing
namespace Number

/-- The integer nearest to a quotient. -/
def nearest (numerator denominator : Nat) : Nat :=
  let quotient := numerator / denominator
  let excess := 2 * (numerator % denominator)
  if excess < denominator then
    quotient
  else if denominator < excess then
    quotient + 1
  else
    quotient + quotient % 2

/-- A whole quotient is its own nearest integer. -/
theorem nearest_mul (quotient : Nat) {denominator : Nat} (positive : 0 < denominator) :
    nearest (quotient * denominator) denominator = quotient := by
  simp [nearest, Nat.mul_div_cancel _ positive, positive]

/-- A quotient rounded to the given number of significant bits; one with fewer bits is rounded to an
integer. -/
def significant (bits numerator denominator : Nat) : Nat :=
  let step := Nat.pow 2 ((numerator / denominator).log2 + 1 - bits)
  nearest numerator (denominator * step) * step

/-- The square root of a number below `4 ^ bits`, rounded down one bit at a time. -/
def floorRootWithin : Nat → Nat → Nat
  | 0, _ => 0
  | bits + 1, radicand =>
      let root := 2 * floorRootWithin bits (radicand / 4)
      if (root + 1) * (root + 1) ≤ radicand then root + 1 else root

theorem floorRootWithin_mul_self_le (bits radicand : Nat) :
    floorRootWithin bits radicand * floorRootWithin bits radicand ≤ radicand := by
  induction bits generalizing radicand with
  | zero => simp [floorRootWithin]
  | succ bits ih =>
      have quarter := ih (radicand / 4)
      simp only [floorRootWithin]
      split
      · assumption
      · have doubled :
            2 * floorRootWithin bits (radicand / 4) * (2 * floorRootWithin bits (radicand / 4)) =
              4 * (floorRootWithin bits (radicand / 4) *
                floorRootWithin bits (radicand / 4)) :=
          Nat.mul_mul_mul_comm 2 _ 2 _
        omega

/-- The square root rounded down. -/
def floorRoot (radicand : Nat) : Nat :=
  floorRootWithin (radicand.log2 / 2 + 1) radicand

/-- The integer nearest to the square root of a quotient. -/
def nearestRoot (numerator denominator : Nat) : Nat :=
  let root := floorRoot (numerator / denominator)
  let middle := (2 * root + 1) * (2 * root + 1) * denominator
  if 4 * numerator < middle then
    root
  else if middle < 4 * numerator then
    root + 1
  else
    root + root % 2

end Number
end ChessDrawing
