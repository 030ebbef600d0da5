import ChessDrawing.Proofs.Outcome
import ChessDrawing.Proofs.Settings.Value
import ChessDrawing.Proofs.Text.Trim
import ChessDrawing.Settings.Change

/-!
# Valid styles

A valid style has trimmed colors that are not empty and a positive width.  Every style that is read
is valid, and a valid style is read back from its stored form.  A stored value that agrees with the
form of a style is read as that style or not at all.
-/

namespace ChessDrawing
namespace Style

/-- A color without blanks at its ends that is not empty. -/
def ValidColor (color : String) : Prop :=
  color ≠ "" ∧ Text.trimmed color = color

/-- The style can be in force. -/
structure Valid (style : Style) : Prop where
  /-- The color of the light squares is set and trimmed. -/
  light : ValidColor style.light
  /-- The color of the dark squares is set and trimmed. -/
  dark : ValidColor style.dark
  /-- The board has a width. -/
  width : 1 ≤ style.width

theorem valid_default : default.Valid where
  light := ⟨by decide, by decide⟩
  dark := ⟨by decide, by decide⟩
  width := by decide

/-! ## Reading -/

theorem readColor_eq_ok_iff {value : Value} {color : String} :
    readColor value = .ok color ↔
      ∃ text, value = .text text ∧ Text.trimmed text = color ∧ color ≠ "" := by
  simp only [readColor, bind_eq_ok_iff, Value.readText_eq_ok_iff]
  constructor
  · rintro ⟨text, value_eq, read⟩
    split at read
    · cases read
    · rename_i nonempty
      obtain rfl := Except.ok.inj read
      exact ⟨text, value_eq, rfl, nonempty⟩
  · rintro ⟨text, value_eq, rfl, nonempty⟩
    exact ⟨text, value_eq, if_neg nonempty⟩

theorem readWidth_eq_ok_iff {value : Value} {width : Int} :
    readWidth value = .ok width ↔ value.readInteger = .ok width ∧ 0 < width := by
  simp only [readWidth, bind_eq_ok_iff]
  constructor
  · rintro ⟨read, found, checked⟩
    split at checked
    · rename_i positive
      obtain rfl := Except.ok.inj checked
      exact ⟨found, positive⟩
    · cases checked
  · rintro ⟨found, positive⟩
    exact ⟨width, found, if_pos positive⟩

theorem Field.read_eq_ok_iff {α : Type} {field : Field} {reader : Value → Except Problem α}
    {absent result : α} {object : List (String × Value)} :
    field.read reader absent object = .ok result ↔
      (field.find? object = none ∧ absent = result) ∨
        ∃ key value, field.find? object = some (key, value) ∧ reader value = .ok result := by
  unfold Field.read
  cases field.find? object with
  | none => simp
  | some entry =>
      obtain ⟨key, value⟩ := entry
      cases read : reader value <;> simp [read]

theorem ofObject_eq_ok_iff {object : List (String × Value)} {style : Style} :
    ofObject object = .ok style ↔
      Field.light.read readColor default.light object = .ok style.light ∧
        Field.dark.read readColor default.dark object = .ok style.dark ∧
          Field.width.read readWidth default.width object = .ok style.width := by
  obtain ⟨light, dark, width⟩ := style
  unfold ofObject
  cases Field.light.read readColor default.light object <;>
    cases Field.dark.read readColor default.dark object <;>
      cases Field.width.read readWidth default.width object <;> simp

theorem validColor_of_read {field : Field} {absent color : String}
    {object : List (String × Value)} (valid_absent : ValidColor absent)
    (read : field.read readColor absent object = .ok color) : ValidColor color := by
  rcases Field.read_eq_ok_iff.mp read with ⟨-, rfl⟩ | ⟨key, value, -, accepted⟩
  · exact valid_absent
  · obtain ⟨text, -, rfl, nonempty⟩ := readColor_eq_ok_iff.mp accepted
    exact ⟨nonempty, Text.trimmed_trimmed text⟩

theorem valid_of_ofObject {object : List (String × Value)} {style : Style}
    (read : ofObject object = .ok style) : style.Valid := by
  obtain ⟨light, dark, width⟩ := ofObject_eq_ok_iff.mp read
  refine ⟨validColor_of_read valid_default.light light,
    validColor_of_read valid_default.dark dark, ?_⟩
  rcases Field.read_eq_ok_iff.mp width with ⟨-, default_width⟩ | ⟨key, value, -, accepted⟩
  · rw [← default_width]
    exact valid_default.width
  · exact (readWidth_eq_ok_iff.mp accepted).2

/-- Every style that is read from a stored value is valid. -/
theorem valid_of_ofValue {value : Value} {style : Style} (read : ofValue value = .ok style) :
    style.Valid := by
  unfold ofValue at read
  split at read
  · obtain rfl := Except.ok.inj read
    exact valid_default
  · split at read
    · exact valid_of_ofObject read
    · cases read

/-! ## Stored forms -/

/-- An empty object is read as the default style, like a value that is not there. -/
theorem ofValue_object (fields : List (String × Value)) :
    ofValue (.object fields) = ofObject fields := by
  cases fields <;> rfl

theorem Field.find?_of_lookup {field : Field} {object : List (String × Value)} {value : Value}
    (found : object.lookup field.storedKey = some value) :
    field.find? object = some (field.storedKey, value) := by
  rw [find?, found]

theorem Field.read_of_lookup {α : Type} {field : Field} {object : List (String × Value)}
    {value : Value} (found : object.lookup field.storedKey = some value)
    {reader : Value → Except Problem α} {absent result : α} :
    field.read reader absent object = .ok result ↔ reader value = .ok result := by
  rw [read_eq_ok_iff, find?_of_lookup found]
  simp

theorem readColor_of_validColor {color : String} (valid : ValidColor color) :
    readColor (.text color) = .ok color :=
  readColor_eq_ok_iff.mpr ⟨color, rfl, valid.2, valid.1⟩

/-- A valid style is read back from its stored form. -/
theorem ofValue_toValue {style : Style} (valid : style.Valid) :
    ofValue style.toValue = .ok style := by
  rw [toValue, ofValue_object, ofObject_eq_ok_iff]
  refine ⟨(Field.read_of_lookup rfl).mpr (readColor_of_validColor valid.light),
    (Field.read_of_lookup rfl).mpr (readColor_of_validColor valid.dark),
    (Field.read_of_lookup rfl).mpr ?_⟩
  exact readWidth_eq_ok_iff.mpr ⟨rfl, valid.width⟩

/-! ## Agreement -/

/-- An object that agrees with the form of a style has its three fields, each with a value that
agrees. -/
theorem fields_of_agrees {style : Style} {stored : Value}
    (agree : style.toValue.agrees stored = true) :
    ∃ fields, stored = .object fields ∧
      fields.lookup Field.light.storedKey = some (.text style.light) ∧
      fields.lookup Field.dark.storedKey = some (.text style.dark) ∧
      ∃ width, fields.lookup Field.width.storedKey = some width ∧
        (Value.integer style.width).agrees width = true := by
  cases stored with
  | object fields =>
      rw [toValue, Value.agrees, Bool.and_eq_true, Value.agreesFields_cons_iff,
        Value.agreesFields_cons_iff, Value.agreesFields_cons_iff] at agree
      obtain ⟨-, ⟨light, light_at, same_light⟩, ⟨dark, dark_at, same_dark⟩,
        ⟨width, width_at, same_width⟩, -⟩ := agree
      obtain rfl := Value.eq_text_of_agrees same_light
      obtain rfl := Value.eq_text_of_agrees same_dark
      exact ⟨fields, rfl, light_at, dark_at, width, width_at, same_width⟩
  | _ => simp only [toValue, Value.agrees, Value.isSameNumber_object, Bool.false_eq_true] at agree

/-- A stored value that agrees with a valid style is read as that style or not at all. -/
theorem eq_of_agrees {style result : Style} {stored : Value} (valid : style.Valid)
    (agree : style.toValue.agrees stored = true) (read : ofValue stored = .ok result) :
    result = style := by
  obtain ⟨fields, rfl, light_at, dark_at, width, width_at, same_width⟩ :=
    fields_of_agrees agree
  rw [ofValue_object, ofObject_eq_ok_iff, Field.read_of_lookup light_at,
    Field.read_of_lookup dark_at, Field.read_of_lookup width_at,
    readColor_of_validColor valid.light, readColor_of_validColor valid.dark,
    readWidth_eq_ok_iff] at read
  obtain ⟨light, dark, width_read, -⟩ := read
  obtain ⟨result_light, result_dark, result_width⟩ := result
  obtain rfl := Except.ok.inj light
  obtain rfl := Except.ok.inj dark
  obtain rfl := Value.eq_of_agrees_integer same_width width_read
  rfl

/-- An object that agrees with a valid style is read as that style, but for a width that is a double
of 64 bits. -/
theorem ofValue_eq_ok_iff_of_agrees {style : Style} {fields : List (String × Value)}
    (valid : style.Valid) (agree : style.toValue.agrees (.object fields) = true) :
    ofValue (.object fields) = .ok style ↔
      ∀ double, fields.lookup Field.width.storedKey = some (.real double) →
        style.width.natAbs < Nat.pow 2 63 := by
  obtain ⟨_, fields_eq, light_at, dark_at, width, width_at, same_width⟩ := fields_of_agrees agree
  obtain rfl := Value.object.inj fields_eq
  have positive : 0 < style.width := valid.width
  rw [ofValue_object, ofObject_eq_ok_iff, Field.read_of_lookup light_at,
    Field.read_of_lookup dark_at, Field.read_of_lookup width_at, readWidth_eq_ok_iff,
    and_iff_right (readColor_of_validColor valid.light),
    and_iff_right (readColor_of_validColor valid.dark),
    Value.readInteger_eq_ok_iff_of_agrees same_width, width_at, and_iff_left positive]
  simp only [Option.some.injEq]

/-- A stored value that agrees with a valid style is read as that style if the width has less than
64 bits. -/
theorem ofValue_of_agrees_of_lt {style : Style} {stored : Value} (valid : style.Valid)
    (small : style.width.natAbs < Nat.pow 2 63) (agree : style.toValue.agrees stored = true) :
    ofValue stored = .ok style := by
  obtain ⟨fields, rfl, -⟩ := fields_of_agrees agree
  exact (ofValue_eq_ok_iff_of_agrees valid agree).mpr fun _ _ => small

theorem agrees_toValue (style : Style) : style.toValue.agrees style.toValue = true := by
  have same_width : (Value.integer style.width).agrees (.integer style.width) = true :=
    Value.agrees_integer_iff.mpr rfl
  rw [toValue, Value.agrees, Bool.and_eq_true, Value.agreesFields_cons_iff,
    Value.agreesFields_cons_iff, Value.agreesFields_cons_iff]
  refine ⟨beq_self_eq_true _, ⟨_, rfl, ?_⟩, ⟨_, rfl, ?_⟩, ⟨_, rfl, same_width⟩, rfl⟩
  · rw [Value.agrees, beq_self_eq_true]
  · rw [Value.agrees, beq_self_eq_true]

end Style
end ChessDrawing
