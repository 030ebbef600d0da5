/-!
# Blank characters and trimming

A blank is a white-space character or one of the four information separators.  This file gives the
blanks as a table and removes them from both ends of a text.
-/

namespace ChessDrawing
namespace Text

/-- The white-space characters. -/
def isSpace (character : Char) : Bool :=
  let code := character.toNat
  (0x9 ≤ code && code ≤ 0xd) || code == 0x20 || code == 0x85 || code == 0xa0 || code == 0x1680 ||
    (0x2000 ≤ code && code ≤ 0x200a) || code == 0x2028 || code == 0x2029 || code == 0x202f ||
    code == 0x205f || code == 0x3000

/-- The white-space characters and the information separators U+001C to U+001F. -/
def isBlank (character : Char) : Bool :=
  isSpace character || (0x1c ≤ character.toNat && character.toNat ≤ 0x1f)

/-- A text without the selected characters at either end. -/
def trimBy (selected : Char → Bool) (text : List Char) : List Char :=
  ((text.dropWhile selected).reverse.dropWhile selected).reverse

/-- A text without blanks at either end. -/
def trim (text : List Char) : List Char :=
  trimBy isBlank text

/-- A trimmed string. -/
def trimmed (text : String) : String :=
  String.ofList (trim text.toList)

@[simp]
theorem toList_trimmed (text : String) : (trimmed text).toList = trim text.toList := by
  simp [trimmed]

end Text
end ChessDrawing
