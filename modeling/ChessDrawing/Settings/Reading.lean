import ChessDrawing.Settings.Spelling
import ChessDrawing.Settings.Value

/-!
# Reading fields

A field of a settings object is read on its own: the result is a value of the domain or one problem.
A fault adds the key under which the field was found, and reading an object collects the faults of
all its fields in their order.
-/

namespace ChessDrawing

/-- What is wrong with a field or with a whole settings value. -/
inductive Problem where
  /-- A text is expected. -/
  | notText
  /-- A color is blank. -/
  | blankColor
  /-- An integer is expected. -/
  | notInteger
  /-- A number has a fractional part. -/
  | fractional
  /-- A number is infinite or missing. -/
  | notFinite
  /-- A double is beyond the integers of 64 bits, or the spelling of an integer is too long. -/
  | tooLarge
  /-- A text does not read as an integer. -/
  | unreadable
  /-- A width is not positive. -/
  | notPositive (width : Int)
  /-- A typed width holds other characters than decimal digits. -/
  | notDigits (text : String)
  /-- A typed width has too many digits. -/
  | tooManyDigits (count : Nat)
  /-- A required field is absent. -/
  | missing
  /-- The whole value is not an object. -/
  | notObject
  deriving DecidableEq

namespace Problem

/-- The class of a problem. -/
def code : Problem → String
  | .notText => "string_type"
  | .blankColor | .notPositive _ | .notDigits _ | .tooManyDigits _ => "value_error"
  | .notInteger => "int_type"
  | .fractional => "int_from_float"
  | .notFinite => "finite_number"
  | .tooLarge => "int_parsing_size"
  | .unreadable => "int_parsing"
  | .missing => "missing"
  | .notObject => "model_type"

/-- The message of a problem. -/
def message : Problem → String
  | .notText => "Input should be a valid string"
  | .blankColor => "Value error, Square color cannot be empty."
  | .notInteger => "Input should be a valid integer"
  | .fractional => "Input should be a valid integer, got a number with a fractional part"
  | .notFinite => "Input should be a finite number"
  | .tooLarge => "Unable to parse input string as an integer, exceeded maximum size"
  | .unreadable => "Input should be a valid integer, unable to parse string as an integer"
  | .notPositive width =>
      "Value error, Board width must be a positive number of pixels, got " ++
        String.ofList (Text.integer width) ++ "."
  | .notDigits text =>
      "Value error, Cannot interpret board width: " ++ Text.quoted text ++
        " as a number of pixels."
  | .tooManyDigits count =>
      "Value error, Exceeds the limit (" ++
        String.ofList (Text.natural Spelling.maxDigits) ++
        " digits) for integer string conversion: value has " ++
        String.ofList (Text.natural count) ++
        " digits; use sys.set_int_max_str_digits() to increase the limit"
  | .missing => "Field required"
  | .notObject => "Input should be a valid dictionary or instance of StyleConfig"

end Problem

/-- A problem and the key of the field that has it; a whole value has no key. -/
structure FieldFault where
  /-- The key under which the field was found. -/
  key : Option String
  /-- What is wrong. -/
  problem : Problem
  deriving DecidableEq

/-- The faults of a result. -/
def faultsOf {α : Type} : Except FieldFault α → List FieldFault
  | .ok _ => []
  | .error fault => [fault]

namespace Value

/-- The integer of a double, which must be strictly between the bounds of 64 bits. -/
def integerOfReal (value : Binary64) : Except Problem Int :=
  match value, value.integer? with
  | .finite _ _, some result => if result.natAbs < Nat.pow 2 63 then .ok result else .error .tooLarge
  | .finite _ _, none => .error .fractional
  | _, _ => .error .notFinite

/-- The integer of a text. -/
def integerOfText (text : String) : Except Problem Int :=
  match Spelling.read text.toList with
  | .ok value => .ok value
  | .error .malformed => .error .unreadable
  | .error .tooLong => .error .tooLarge

/-- Read an integer; truth values count as one and zero. -/
def readInteger : Value → Except Problem Int
  | .integer value => .ok value
  | .bool value => .ok (if value then 1 else 0)
  | .real value => integerOfReal value
  | .text value => integerOfText value
  | _ => .error .notInteger

/-- Read a text. -/
def readText : Value → Except Problem String
  | .text value => .ok value
  | _ => .error .notText

end Value
end ChessDrawing
