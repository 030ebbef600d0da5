import ChessDrawing.Number.Places

/-!
# The shortest decimal that reads back

A stored double is written in the fewest significant digits whose decimal rounds to the same
double, and of those in the digits nearest to it.  Seventeen digits always suffice.
-/

namespace ChessDrawing
namespace Binary64

open Text

/-- The double nearest to `digits * 10 ^ power`, as a count of units. -/
def readBack (digits : Nat) (power : Int) : Nat :=
  let scaled := timesPowerOfTen power (digits * unitsPerOne) 1
  roundUnits scaled.1 scaled.2

/-- The distance of `digits * 10 ^ power` from a count of units, in the finer of the two scales. -/
def decimalDistance (units digits : Nat) (power : Int) : Nat :=
  let scaled := timesPowerOfTen power (digits * unitsPerOne) 1
  ((scaled.1 : Int) - units * scaled.2).natAbs

/-- The decimal of the given number of digits that is nearest to a positive count of units among the
two around it that read back. -/
def neighbour? (units count : Nat) : Option Scientific :=
  let exponent := decimalExponent units unitsPerOne
  let power := exponent - (count - 1)
  let scaled := timesPowerOfTen (-power) units unitsPerOne
  let below := scaled.1 / scaled.2
  let candidates := [below, below + 1].filter fun digits => readBack digits power == units
  let best := match candidates with
    | [lower, upper] =>
        let lowerDistance := decimalDistance units lower power
        let upperDistance := decimalDistance units upper power
        if lowerDistance < upperDistance ∨ (lowerDistance = upperDistance ∧ lower % 2 = 0) then
          some lower
        else
          some upper
    | [only] => some only
    | _ => none
  best.map fun digits =>
    if digits = Nat.pow 10 count then
      { digits := Nat.pow 10 (count - 1), exponent := exponent + 1 }
    else
      { digits, exponent }

/-- The shortest decimal that reads back as a positive count of units. -/
def shortestScientific (units : Nat) : Scientific :=
  ((List.range 17).findSome? fun before => neighbour? units (before + 1)).getD
    (scientific 17 units)

/-- The shortest text of a number; it has a point or an exponent, the latter below `10 ^ -4` and
from `10 ^ 16` on. -/
def shortest : Binary64 → List Char
  | .finite negative units =>
      withSign negative <|
        if units = 0 then
          ['0', '.', '0']
        else
          let decimal := shortestScientific units
          let digits := withoutFinalZeros (natural decimal.digits)
          if -4 ≤ decimal.exponent ∧ decimal.exponent < 16 then
            let text := positionalText digits decimal.exponent
            if text.contains '.' then text else text ++ ['.', '0']
          else
            pointAfterFirst digits ++ exponentText decimal.exponent
  | .infinite negative => infinityText negative
  | .nan => nanText

end Binary64
end ChessDrawing
