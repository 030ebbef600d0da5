import ChessDrawing.Text.Printable

/-!
# Quoted texts

Messages show a text between quotation marks.  The mark is an apostrophe unless the text holds
apostrophes and no double quotes; the mark, the backslash and every character that is not printable
are escaped, so a quoted text never breaks a line.
-/

namespace ChessDrawing
namespace Text

/-- The mark put around a quoted text. -/
def quotationMark (text : List Char) : Char :=
  if text.contains '\x27' && !text.contains '\x22' then '\x22' else '\x27'

/-- A code point in hexadecimal, padded to the given width. -/
def hexadecimal (width code : Nat) : List Char :=
  let digits := Nat.toDigits 16 code
  List.replicate (width - digits.length) '0' ++ digits

/-- The shortest escape that holds a code point: two, four or eight hexadecimal digits. -/
def escapeCode (code : Nat) : List Char :=
  if code < 0x100 then
    '\x5c' :: 'x' :: hexadecimal 2 code
  else if code < 0x10000 then
    '\x5c' :: 'u' :: hexadecimal 4 code
  else
    '\x5c' :: 'U' :: hexadecimal 8 code

/-- A code point as its character, or as an escape where no character has it. -/
def codePoint (code : Nat) : List Char :=
  if valid : code.isValidChar then [Char.ofNatAux code valid] else escapeCode code

/-- One character as it stands between the given marks. -/
def quoteChar (mark character : Char) : List Char :=
  if character = mark ∨ character = '\x5c' then
    ['\x5c', character]
  else if character = '\n' then
    ['\x5c', 'n']
  else if character = '\r' then
    ['\x5c', 'r']
  else if character = '\t' then
    ['\x5c', 't']
  else if isPrintable character then
    [character]
  else
    escapeCode character.toNat

/-- A text between quotation marks. -/
def quote (text : List Char) : List Char :=
  let mark := quotationMark text
  mark :: text.flatMap (quoteChar mark) ++ [mark]

/-- A quoted string. -/
def quoted (text : String) : String :=
  String.ofList (quote text.toList)

end Text
end ChessDrawing
