import ChessDrawing.Settings.Reading

/-!
# Styles

A style gives the colors of the squares and the width of the board.  It is read from an object field
by field, each under its stored key or else under its plain key, with a default for absent fields;
colors are trimmed and must not be blank, and the width must be positive.
-/

namespace ChessDrawing

/-- How a diagram looks. -/
structure Style where
  /-- The color of the light squares. -/
  light : String
  /-- The color of the dark squares. -/
  dark : String
  /-- The width of the board in pixels. -/
  width : Int
  deriving DecidableEq

namespace Style

/-- The style where nothing is set. -/
def default : Style :=
  { light := "#f0d9b5", dark := "#b58862", width := 320 }

/-- The fields of a style. -/
inductive Field where
  | light
  | dark
  | width
  deriving DecidableEq

namespace Field

/-- The key of a field in stored settings. -/
def storedKey : Field → String
  | light => "whiteSquareColor"
  | dark => "blackSquareColor"
  | width => "boardWidthPx"

/-- The plain key of a field. -/
def plainKey : Field → String
  | light => "white_square_color"
  | dark => "black_square_color"
  | width => "board_width_px"

/-- The key under which an object has a field, with the value there; the stored key goes first. -/
def find? (field : Field) (object : List (String × Value)) : Option (String × Value) :=
  match object.lookup field.storedKey with
  | some value => some (field.storedKey, value)
  | none => (object.lookup field.plainKey).map fun value => (field.plainKey, value)

/-- Read a field of an object. -/
def read {α : Type} (field : Field) (reader : Value → Except Problem α) (absent : α)
    (object : List (String × Value)) : Except FieldFault α :=
  match field.find? object with
  | none => .ok absent
  | some (key, value) =>
      match reader value with
      | .ok result => .ok result
      | .error problem => .error { key := some key, problem }

end Field

/-- Read a color. -/
def readColor (value : Value) : Except Problem String := do
  let color := Text.trimmed (← value.readText)
  if color = "" then .error .blankColor else .ok color

/-- Read a width. -/
def readWidth (value : Value) : Except Problem Int := do
  let width ← value.readInteger
  if 0 < width then .ok width else .error (.notPositive width)

/-- Read a style from the fields of an object, or collect the faults of all fields. -/
def ofObject (object : List (String × Value)) : Except (List FieldFault) Style :=
  match
    Field.light.read readColor default.light object,
    Field.dark.read readColor default.dark object,
    Field.width.read readWidth default.width object
  with
  | .ok light, .ok dark, .ok width => .ok { light, dark, width }
  | light, dark, width => .error (faultsOf light ++ faultsOf dark ++ faultsOf width)

/-- Read a style from a stored value; a value that says nothing gives the default style. -/
def ofValue (value : Value) : Except (List FieldFault) Style :=
  if value.isVoid then
    .ok default
  else
    match value.fields? with
    | some object => ofObject object
    | none => .error [{ key := none, problem := .notObject }]

/-- The stored form of a style. -/
def toValue (style : Style) : Value :=
  .object
    [ (Field.light.storedKey, .text style.light),
      (Field.dark.storedKey, .text style.dark),
      (Field.width.storedKey, .integer style.width) ]

/-- The fields of a style under their plain keys. -/
def toPlain (style : Style) : List (String × Value) :=
  [ (Field.light.plainKey, .text style.light),
    (Field.dark.plainKey, .text style.dark),
    (Field.width.plainKey, .integer style.width) ]

end Style
end ChessDrawing
