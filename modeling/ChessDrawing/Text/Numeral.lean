/-!
# Decimal numerals

Integers are written in ASCII digits without superfluous zeros, and read back from the decimal
digits of every script.  The digits of a script are ten consecutive characters, so the table holds
the zero of each script; it follows version 14 of the Unicode character database.
-/

namespace ChessDrawing
namespace Text

/-- The numeral of a natural number. -/
def natural (value : Nat) : List Char :=
  Nat.toDigits 10 value

/-- The numeral of an integer, with a minus sign below zero. -/
def integer : Int → List Char
  | .ofNat value => natural value
  | .negSucc before => '-' :: natural (before + 1)

/-- The numeral of a number below a power of ten, with zeros in front up to a given width. -/
def padded (width value : Nat) : List Char :=
  let digits := natural value
  List.replicate (width - digits.length) '0' ++ digits

/-- The digit zero of each script. -/
def zeroDigits : List Nat :=
  [
    0x30, 0x660, 0x6f0, 0x7c0, 0x966, 0x9e6, 0xa66, 0xae6, 0xb66, 0xbe6, 0xc66, 0xce6, 0xd66,
    0xde6, 0xe50, 0xed0, 0xf20, 0x1040, 0x1090, 0x17e0, 0x1810, 0x1946, 0x19d0, 0x1a80, 0x1a90,
    0x1b50, 0x1bb0, 0x1c40, 0x1c50, 0xa620, 0xa8d0, 0xa900, 0xa9d0, 0xa9f0, 0xaa50, 0xabf0,
    0xff10, 0x104a0, 0x10d30, 0x11066, 0x110f0, 0x11136, 0x111d0, 0x112f0, 0x11450, 0x114d0,
    0x11650, 0x116c0, 0x11730, 0x118e0, 0x11950, 0x11c50, 0x11d50, 0x11da0, 0x16a60, 0x16ac0,
    0x16b50, 0x1d7ce, 0x1d7d8, 0x1d7e2, 0x1d7ec, 0x1d7f6, 0x1e140, 0x1e2f0, 0x1e950, 0x1fbf0
  ]

/-- The value of a decimal digit of any script. -/
def digitValue? (character : Char) : Option Nat :=
  zeroDigits.findSome? fun first =>
    if first ≤ character.toNat ∧ character.toNat < first + 10 then
      some (character.toNat - first)
    else
      none

/-- The value of an ASCII digit. -/
def asciiDigit? (character : Char) : Option Nat :=
  if '0' ≤ character ∧ character ≤ '9' then
    some (character.toNat - '0'.toNat)
  else
    none

/-- The positional value of a row of digit values. -/
def positional (digits : List Nat) : Nat :=
  digits.foldl (fun value digit => 10 * value + digit) 0

@[simp]
theorem positional_nil : positional [] = 0 := rfl

theorem positional_concat (digits : List Nat) (last : Nat) :
    positional (digits ++ [last]) = 10 * positional digits + last := by
  simp [positional]

/-- The number that a non-empty row of decimal digits denotes. -/
def readNatural? (text : List Char) : Option Nat :=
  if text.isEmpty then
    none
  else
    (text.mapM digitValue?).map positional

end Text
end ChessDrawing
