import ChessDrawing.Settings.Style

/-!
# Changes of a style

A change names some fields of a style and gives new values.  It is read from a form in which a width
may be typed in the decimal digits of any script; the changed style is then checked as a whole.
-/

namespace ChessDrawing

/-- New values for some fields of a style. -/
structure Change where
  /-- The new color of the light squares. -/
  light : Option String
  /-- The new color of the dark squares. -/
  dark : Option String
  /-- The new width. -/
  width : Option Int
  deriving DecidableEq

namespace Change

/-- Read a typed width, or a width sent as a number. -/
def readWidth : Value → Except Problem Int
  | .text typed =>
      let digits := Text.trim typed.toList
      match Text.readNatural? digits with
      | some width =>
          if Spelling.maxDigits < digits.length then
            .error (.tooManyDigits digits.length)
          else
            .ok width
      | none => .error (.notDigits (String.ofList digits))
  | value => value.readInteger

/-- Read an optional field of a form; no value is the same as no field. -/
def readField {α : Type} (field : Style.Field) (reader : Value → Except Problem α)
    (form : List (String × Value)) : Except FieldFault (Option α) :=
  match form.lookup field.plainKey with
  | none => .ok none
  | some .null => .ok none
  | some value =>
      match reader value with
      | .ok result => .ok (some result)
      | .error problem => .error { key := some field.plainKey, problem }

/-- Read a change from the fields of a form, or collect the faults of all fields. -/
def ofForm (form : List (String × Value)) : Except (List FieldFault) Change :=
  match
    readField .light Value.readText form,
    readField .dark Value.readText form,
    readField .width readWidth form
  with
  | .ok light, .ok dark, .ok width => .ok { light, dark, width }
  | light, dark, width => .error (faultsOf light ++ faultsOf dark ++ faultsOf width)

/-- The named fields with their new values. -/
def named (change : Change) : List (Style.Field × Value) :=
  (change.light.map fun color => (Style.Field.light, Value.text color)).toList ++
    (change.dark.map fun color => (Style.Field.dark, Value.text color)).toList ++
      (change.width.map fun width => (Style.Field.width, Value.integer width)).toList

/-- A style with the named fields replaced, not yet checked. -/
def overlay (change : Change) (style : Style) : Style :=
  { light := change.light.getD style.light
    dark := change.dark.getD style.dark
    width := change.width.getD style.width }

/-- The checked style after a change. -/
def apply (change : Change) (style : Style) : Except (List FieldFault) Style :=
  Style.ofObject (change.overlay style).toPlain

end Change
end ChessDrawing
