import ChessDrawing.Number.Shortest

/-!
# Decimals of one word

A decimal has a significand that fits a signed word of 64 bits, and a power of ten.  Its double is
computed with 64 significant bits: the power is multiplied out of repeated squares, the significand
is multiplied or divided by it, and the result is rounded to a double.  Each step rounds once, so
the double need not be the nearest one.
-/

namespace ChessDrawing

/-- A decimal number whose significand fits a word. -/
structure WordDecimal where
  /-- Whether the number is negative. -/
  negative : Bool
  /-- The digits as one integer. -/
  significand : Nat
  /-- The power of ten that the last digit counts. -/
  power : Int
  deriving DecidableEq

namespace WordDecimal

/-- The greatest signed word. -/
def wordMax : Nat :=
  Nat.pow 2 63 - 1

/-! ## Digits -/

/-- Append a digit where every digit fits the word; a later digit counts only as a place. -/
def push (decimal : WordDecimal) (digit : Nat) : WordDecimal :=
  if decimal.significand < (wordMax - 9) / 10 then
    { decimal with significand := 10 * decimal.significand + digit }
  else
    { decimal with power := decimal.power + 1 }

/-- The decimal with the given digits, of which the last counts the given power of ten. -/
def ofDigits (negative : Bool) (digits : List Char) (power : Int) : WordDecimal :=
  (digits.filterMap Text.asciiDigit?).foldl push { negative, significand := 0, power }

/-- The leading digits of an integer. -/
def ofInt (value : Int) : WordDecimal :=
  ofDigits (value < 0) (Text.natural value.natAbs) 0

/-- The shortest decimal of a finite double. -/
def ofUnits (negative : Bool) (units : Nat) : WordDecimal :=
  let decimal := Binary64.shortestScientific units
  let digits := Text.natural decimal.digits
  ofDigits negative digits (decimal.exponent + 1 - digits.length)

/-! ## Powers of ten -/

/-- The power `10 ^ 2 ^ count`, each square rounded to 64 significant bits. -/
def squaredTen : Nat → Nat
  | 0 => 10
  | count + 1 => Number.significant 64 (squaredTen count * squaredTen count) 1

/-- The power `10 ^ exponent` below `10 ^ 512`, each product rounded to 64 significant bits. -/
def powerOfTen (exponent : Nat) : Nat :=
  (List.range 9).foldl
    (fun power count =>
      if exponent.testBit count then
        Number.significant 64 (power * squaredTen count) 1
      else
        power)
    1

/-- A significand that takes over powers of ten while it fits the word, and those that are left. -/
def raise : Nat → Nat → Nat × Nat
  | significand, 0 => (significand, 0)
  | significand, power + 1 =>
      if significand < wordMax / 10 then
        raise (10 * significand) power
      else
        (significand, power + 1)

/-- A significand that gives up final zeros, at most the given number, and the number not found. -/
def lower : Nat → Nat → Nat × Nat
  | significand, 0 => (significand, 0)
  | significand, power + 1 =>
      if significand % 10 = 0 then
        lower (significand / 10) power
      else
        (significand, power + 1)

/-! ## Doubles -/

/-- The double of `significand * 10 ^ power`. -/
def multiplied (negative : Bool) (significand power : Nat) : Binary64 :=
  let product := Number.significant 64 (significand * powerOfTen power) 1
  .rounded negative (product * Binary64.unitsPerOne) 1

/-- The double of `significand / 10 ^ power`. -/
def divided (negative : Bool) (significand power : Nat) : Binary64 :=
  let finer := significand * (Binary64.unitsPerOne * Binary64.unitsPerOne)
  let quotient := Number.significant 64 finer (powerOfTen power)
  .rounded negative quotient Binary64.unitsPerOne

/-- The double nearest to `10 ^ 308`, beyond which powers of ten are infinite. -/
def topPower : Binary64 :=
  .ofDecimal (Nat.pow 10 308) 0

/-- The double of a decimal.  A power beyond `10 ^ 307` is taken in two steps, the second in
doubles; one beyond `10 ^ 341` makes the double infinite or zero. -/
def toBinary64 (decimal : WordDecimal) : Binary64 :=
  match decimal.power with
  | .ofNat power =>
      let (significand, power) := raise decimal.significand power
      if power < 308 then
        multiplied decimal.negative significand power
      else if power < 342 then
        multiplied decimal.negative significand (power - 308) * topPower
      else
        .infinite decimal.negative
  | .negSucc before =>
      let (significand, power) := lower decimal.significand (before + 1)
      if power < 308 then
        divided decimal.negative significand power
      else if power < 342 then
        divided decimal.negative significand (power - 308) / topPower
      else
        .finite decimal.negative 0

end WordDecimal
end ChessDrawing
