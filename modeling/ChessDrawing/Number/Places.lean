import ChessDrawing.Number.Binary64
import ChessDrawing.Text.Numeral

/-!
# Decimal texts of doubles

Three forms: to the nearest hundredth without superfluous zeros, to six places, and to six
significant digits.  The last two round the exact binary value once, a tie going to the even last
digit; the first rounds it to a double and that double once more.  Infinities and missing numbers are
written as words.
-/

namespace ChessDrawing
namespace Binary64

open Text

/-- A sign in front of a numeral. -/
def withSign (negative : Bool) (digits : List Char) : List Char :=
  if negative then '-' :: digits else digits

/-- The text of an infinity. -/
def infinityText (negative : Bool) : List Char :=
  withSign negative ['i', 'n', 'f']

/-- The text of a missing number. -/
def nanText : List Char :=
  ['n', 'a', 'n']

/-- A text without the given character at its end. -/
def withoutFinal (final : Char) (text : List Char) : List Char :=
  (text.reverse.dropWhile (· == final)).reverse

/-- A row of digits without the zeros at its end. -/
def withoutFinalZeros (digits : List Char) : List Char :=
  withoutFinal '0' digits

/-- The number of steps of `10 ^ -places` nearest to a count of units. -/
def steps (places units : Nat) : Nat :=
  Number.nearest (Nat.pow 10 places * units) unitsPerOne

/-- A count of units with exactly the given number of decimals. -/
def fixedPlaces (places units : Nat) : List Char :=
  let count := steps places units
  natural (count / Nat.pow 10 places) ++ '.' :: padded places (count % Nat.pow 10 places)

/-- The text with exactly two places. -/
def twoPlaces : Binary64 → List Char
  | .finite negative units => withSign negative (fixedPlaces 2 units)
  | .infinite negative => infinityText negative
  | .nan => nanText

/-- The double nearest to the nearest hundredth. -/
def toHundredth : Binary64 → Binary64
  | .finite negative units => rounded negative (unitsPerOne * steps 2 units) 100
  | value => value

/-- The nearest hundredth in the fewest characters.  The number is rounded to a double, and zero is
added to it, so that no zero has a sign; the double is written with two places, and the zeros at the
end are cut off, and then the point. -/
def coordinate (value : Binary64) : List Char :=
  withoutFinal '.' (withoutFinal '0' (value.toHundredth + .finite false 0).twoPlaces)

/-- The text with exactly six places; zero has no sign. -/
def sixPlaces : Binary64 → List Char
  | .finite negative units => withSign (negative && steps 6 units != 0) (fixedPlaces 6 units)
  | .infinite negative => infinityText negative
  | .nan => nanText

/-! ## Significant digits -/

/-- The decimal exponent of the first digit of a positive quotient. -/
def decimalExponent (numerator denominator : Nat) : Int :=
  if denominator ≤ numerator then
    (natural (numerator / denominator)).length - 1
  else
    -((natural ((denominator - 1) / numerator)).length : Int)

/-- A quotient times a power of ten, as a quotient. -/
def timesPowerOfTen (exponent : Int) (numerator denominator : Nat) : Nat × Nat :=
  (numerator * Nat.pow 10 exponent.toNat, denominator * Nat.pow 10 (-exponent).toNat)

/-- Digits of a positive count of units, and the decimal exponent of the first of them. -/
structure Scientific where
  /-- The digits as one integer, the first digit not zero. -/
  digits : Nat
  /-- The power of ten that the first digit counts. -/
  exponent : Int

/-- A positive count of units rounded to the given number of significant digits. -/
def scientific (count units : Nat) : Scientific :=
  let exponent := decimalExponent units unitsPerOne
  let scaled := timesPowerOfTen (count - 1 - exponent) units unitsPerOne
  let digits := Number.nearest scaled.1 scaled.2
  if digits = Nat.pow 10 count then
    { digits := Nat.pow 10 (count - 1), exponent := exponent + 1 }
  else
    { digits, exponent }

/-- An exponent with a sign and at least two digits. -/
def exponentText (exponent : Int) : List Char :=
  'e' :: (if exponent < 0 then '-' else '+') :: padded 2 exponent.natAbs

/-- A row of digits with a point after the first digit, or with none after a lone one. -/
def pointAfterFirst : List Char → List Char
  | first :: second :: rest => first :: '.' :: second :: rest
  | digits => digits

/-- A row of digits with a point where the exponent of the first digit puts it. -/
def positionalText (digits : List Char) (exponent : Int) : List Char :=
  if exponent < 0 then
    '0' :: '.' :: List.replicate (-exponent - 1).toNat '0' ++ digits
  else
    let whole := exponent.toNat + 1
    if digits.length ≤ whole then
      digits ++ List.replicate (whole - digits.length) '0'
    else
      digits.take whole ++ '.' :: digits.drop whole

/-- Six significant digits without superfluous zeros; an exponent is written below `10 ^ -4` and
from `10 ^ 6` on. -/
def sixDigits : Binary64 → List Char
  | .finite negative units =>
      withSign negative <|
        if units = 0 then
          ['0']
        else
          let rounded := scientific 6 units
          let digits := withoutFinalZeros (natural rounded.digits)
          if -4 ≤ rounded.exponent ∧ rounded.exponent < 6 then
            positionalText digits rounded.exponent
          else
            pointAfterFirst digits ++ exponentText rounded.exponent
  | .infinite negative => infinityText negative
  | .nan => nanText

end Binary64
end ChessDrawing
