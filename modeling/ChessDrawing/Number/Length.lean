import ChessDrawing.Number.Binary64

/-!
# Lengths

The length of a vector is the root of a sum of two squares.  Each square is added in three parts
that need no rounding, and the sum carries the rounding errors of its steps along.  The root is then
corrected once, by what its own square leaves of the sum.  A power of two scales the coordinates
first, so that no square is too large or too small.
-/

namespace ChessDrawing
namespace Binary64

/-- Two doubles of half the precision that add up to a double. -/
structure Halves where
  /-- The half with the leading bits. -/
  high : Binary64
  /-- The half with the final bits. -/
  low : Binary64

/-- The factor `2 ^ 27 + 1`, which moves the leading half of a double apart. -/
def splitter : Binary64 :=
  .finite false ((Nat.pow 2 27 + 1) * unitsPerOne)

/-- The halves of a double. -/
def halves (value : Binary64) : Halves :=
  let product := value * splitter
  let high := product - (product - value)
  { high, low := value - high }

/-- A sum that starts at one, so that no term exceeds it, with the rounding errors of its large,
middle and small terms. -/
structure RunningSum where
  /-- The rounded sum. -/
  total : Binary64
  /-- What is lost of the large terms. -/
  large : Binary64
  /-- What is lost of the middle terms. -/
  middle : Binary64
  /-- What is lost of the small terms. -/
  small : Binary64

namespace RunningSum

/-- The sum without terms. -/
def empty : RunningSum :=
  { total := one, large := .finite false 0, middle := .finite false 0, small := .finite false 0 }

/-- What a step between two totals loses of a term. -/
def lost (before after term : Binary64) : Binary64 :=
  (before - after) + term

/-- Add a large term. -/
def addLarge (sum : RunningSum) (term : Binary64) : RunningSum :=
  let total := sum.total + term
  { sum with total, large := sum.large + lost sum.total total term }

/-- Add a middle term. -/
def addMiddle (sum : RunningSum) (term : Binary64) : RunningSum :=
  let total := sum.total + term
  { sum with total, middle := sum.middle + lost sum.total total term }

/-- Add a small term. -/
def addSmall (sum : RunningSum) (term : Binary64) : RunningSum :=
  let total := sum.total + term
  { sum with total, small := sum.small + lost sum.total total term }

/-- Add a square; its small part would be lost entirely, so it is not added to the total. -/
def addSquare (sum : RunningSum) (value : Binary64) : RunningSum :=
  let parts := value.halves
  let sum := (sum.addLarge (parts.high * parts.high)).addMiddle (two * parts.high * parts.low)
  { sum with small := sum.small + parts.low * parts.low }

/-- Subtract a square. -/
def subtractSquare (sum : RunningSum) (value : Binary64) : RunningSum :=
  let parts := value.halves
  let sum := (sum.addLarge (-parts.high * parts.high)).addMiddle (-two * parts.high * parts.low)
  sum.addSmall (-parts.low * parts.low)

/-- The sum of the terms. -/
def value (sum : RunningSum) : Binary64 :=
  sum.total - one + (sum.large + sum.middle + sum.small)

end RunningSum

/-- The length of a vector whose larger coordinate is between one half and one. -/
def scaledLength (x y : Binary64) : Binary64 :=
  let squares := (RunningSum.empty.addSquare x).addSquare y
  let length := squares.value.root
  length + (squares.subtractSquare length).value / (two * length)

/-- The length of a vector in units of its larger coordinate. -/
def relativeLength (x y : Binary64) : Binary64 :=
  ((RunningSum.empty.addLarge (x * x)).addLarge (y * y)).value.root

/-- The length of a vector whose coordinates have the given counts of units.  The least doubles have
no scale, and are measured in units of the larger coordinate. -/
def unitLength (x y : Nat) : Binary64 :=
  let larger := max x y
  if larger = 0 then
    .finite false 0
  else if larger.log2 < 50 then
    let unit : Binary64 := .finite false larger
    unit * relativeLength (.finite false x / unit) (.finite false y / unit)
  else
    let scale : Binary64 := .finite false (Nat.pow 2 (2147 - larger.log2))
    scaledLength (.finite false x * scale) (.finite false y * scale) / scale

/-- The length of a vector; an infinite coordinate outweighs a missing one. -/
def hypotenuse : Binary64 → Binary64 → Binary64
  | .finite _ units, .finite _ units' => unitLength units units'
  | .infinite _, _ => .infinite false
  | _, .infinite _ => .infinite false
  | _, _ => .nan

end Binary64
end ChessDrawing
