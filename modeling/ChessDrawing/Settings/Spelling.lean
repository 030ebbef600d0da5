import ChessDrawing.Number.Binary64
import ChessDrawing.Text.Blank
import ChessDrawing.Text.Numeral
import ChessDrawing.Text.Split

/-!
# Spellings of integers

An integer in a settings text has one plain spelling and many others, with white space around it, a
plus sign, zeros in front, underscores between digits, or zeros for decimals.  Other spellings are
simplified and then read as plain ones.  A plain spelling must not have too many digits.
-/

namespace ChessDrawing

/-- Why a text does not spell an integer. -/
inductive SpellingFault where
  /-- The text is no spelling. -/
  | malformed
  /-- The text starts with a plain spelling of too many digits. -/
  | tooLong
  deriving DecidableEq

namespace Spelling

/-- The greatest number of digits of a plain spelling; a sign does not count. -/
def maxDigits : Nat := 4300

/-- Whether a character is an ASCII digit. -/
def isDigit (character : Char) : Bool :=
  (Text.asciiDigit? character).isSome

/-- Read a row of digits with nothing behind it; too many digits are reported first. -/
def readDigits (text : List Char) : Except SpellingFault Nat :=
  let digits := text.takeWhile isDigit
  if maxDigits < digits.length then
    .error .tooLong
  else if digits.isEmpty || digits.length ≠ text.length then
    .error .malformed
  else
    .ok (Text.positional (digits.filterMap Text.asciiDigit?))

/-- Read digits without superfluous zeros in front. -/
def readSize : List Char → Except SpellingFault Nat
  | ['0'] => .ok 0
  | '0' :: _ => .error .malformed
  | digits => readDigits digits

/-- Read the plain spelling: an optional minus sign, and digits without superfluous zeros. -/
def readPlain : List Char → Except SpellingFault Int
  | '-' :: digits => (readSize digits).map fun size => -(size : Int)
  | digits => (readSize digits).map Int.ofNat

/-- Whether a character fills the space in front of a number. -/
def isFiller (character : Char) : Bool :=
  character == '0' || character == '_'

/-- A text without filling characters in front; the last of them stays unless a digit or a minus
sign follows. -/
def withoutFrontZeros (text : List Char) : List Char :=
  let rest := text.dropWhile isFiller
  if rest.head?.any fun first => isDigit first || first == '-' then
    rest
  else
    (text.takeWhile isFiller).getLast?.toList ++ rest

/-- A text without a point and the zeros behind it, where nothing else follows. -/
def withoutZeroDecimals (text : List Char) : List Char :=
  match Text.split '.' text with
  | [whole, decimals] => if !decimals.isEmpty && decimals.all (· == '0') then whole else text
  | _ => text

/-- A text without its underscores, which stand alone between other characters. -/
def withoutUnderscores? (text : List Char) : Option (List Char) :=
  let groups := Text.split '_' text
  if groups.any List.isEmpty then none else some groups.flatten

/-- The plain spelling of an unsigned number, which starts with a digit. -/
def plainSize? (text : List Char) : Option (List Char) :=
  if text.head?.any isDigit then
    withoutUnderscores? (withoutZeroDecimals (withoutFrontZeros text))
  else
    none

/-- The plain spelling of a number. -/
def plain? (text : List Char) : Option (List Char) :=
  match Text.trimBy Text.isSpace text with
  | '+' :: size => plainSize? size
  | '-' :: size => (plainSize? size).map ('-' :: ·)
  | size => plainSize? size

/-- Read a spelling, first as the plain one; only that one is too long rather than malformed. -/
def read (text : List Char) : Except SpellingFault Int :=
  match readPlain text with
  | .error .malformed =>
      match (plain? text).map readPlain with
      | some (.ok value) => .ok value
      | _ => .error .malformed
  | result => result

end Spelling
end ChessDrawing
