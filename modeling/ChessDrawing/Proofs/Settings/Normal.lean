import ChessDrawing.Proofs.Settings.Change

/-!
# Normal styles

A style is normal if its colors are not empty and have no blank at either end and its width is at
least one.  Reading gives normal styles, whatever the value was, and normal styles are read back
from their stored form and from their plain form.  A plain key that stands beside the stored key of
its field has no influence on what is read.
-/

namespace ChessDrawing
namespace Style

/-- The text is not empty, and neither its first nor its last character is a blank. -/
def NormalColor (color : String) : Prop :=
  color ≠ "" ∧ (∀ first ∈ color.toList.head?, Text.isBlank first = false) ∧
    ∀ last ∈ color.toList.getLast?, Text.isBlank last = false

/-- The colors are normal and the board has a width. -/
structure Normal (style : Style) : Prop where
  /-- The color of the light squares. -/
  light : NormalColor style.light
  /-- The color of the dark squares. -/
  dark : NormalColor style.dark
  /-- The width. -/
  width : 1 ≤ style.width

theorem normalColor_iff {color : String} : NormalColor color ↔ ValidColor color := by
  have trimmed_iff : Text.trimmed color = color ↔ Text.trim color.toList = color.toList := by
    rw [← String.toList_inj, Text.toList_trimmed]
  rw [ValidColor, trimmed_iff, Text.trim, Text.trimBy_eq_self_iff, NormalColor]

theorem normal_iff {style : Style} : style.Normal ↔ style.Valid := by
  constructor
  · intro normal
    exact ⟨normalColor_iff.mp normal.light, normalColor_iff.mp normal.dark, normal.width⟩
  · intro valid
    exact ⟨normalColor_iff.mpr valid.light, normalColor_iff.mpr valid.dark, valid.width⟩

/-! ## The two forms -/

theorem Valid.trimmed_eq {style : Style} (valid : style.Valid) : style.trimmed = style := by
  obtain ⟨light, dark, width⟩ := style
  simp only [trimmed, valid.light.2, valid.dark.2]

/-- A valid style is read back from its fields under their plain keys. -/
theorem ofValue_toPlain {style : Style} (valid : style.Valid) :
    ofValue (.object style.toPlain) = .ok style := by
  rw [ofValue_object, ofObject_toPlain_eq_ok_iff, valid.trimmed_eq]
  exact ⟨valid, rfl⟩

/-! ## Keys without influence -/

/-- Reading an object depends on what is found for each field only. -/
theorem ofObject_congr {left right : List (String × Value)}
    (same : ∀ field : Field, field.find? left = field.find? right) :
    ofObject left = ofObject right := by
  simp only [ofObject, Field.read, same]

/-- The key is the plain key of a field that the object has under its stored key. -/
def Shadowed (object : List (String × Value)) (key : String) : Prop :=
  ∃ field : Field, key = field.plainKey ∧ ∃ value, object.lookup field.storedKey = some value

theorem Field.storedKey_ne_plainKey (field other : Field) : field.storedKey ≠ other.plainKey := by
  cases field <;> cases other <;> decide

theorem Field.eq_of_plainKey_eq {field other : Field} (same : field.plainKey = other.plainKey) :
    field = other := by
  revert same
  cases field <;> cases other <;> decide

theorem not_shadowed_storedKey (object : List (String × Value)) (field : Field) :
    ¬ Shadowed object field.storedKey := by
  rintro ⟨other, same, -⟩
  exact field.storedKey_ne_plainKey other same

/-- Two objects that differ under plain keys beside stored ones only are read alike. -/
theorem ofValue_congr_of_shadowed {object changed : List (String × Value)}
    (same : ∀ key, ¬ Shadowed object key → changed.lookup key = object.lookup key) :
    ofValue (.object changed) = ofValue (.object object) := by
  rw [ofValue_object, ofValue_object]
  apply ofObject_congr
  intro field
  rw [Field.find?, Field.find?, same _ (not_shadowed_storedKey object field)]
  cases stored : object.lookup field.storedKey with
  | some value => rfl
  | none =>
      have plain : ¬ Shadowed object field.plainKey := by
        rintro ⟨other, same_key, value, found⟩
        rw [← Field.eq_of_plainKey_eq same_key, stored] at found
        cases found
      simp only [same _ plain]

/-- Reading settings normalises them.  Every style that is read is normal: its colors are not empty
and have no blank at either end, and its width is at least one.  It is read back from its stored
form, which has exactly the three stored keys, and from its plain form under the three plain keys,
and no normal style is missing.  A plain key that stands beside the stored key of its field can have
any value or none, and the result is the same. -/
theorem reading_normalises :
    (∀ value style, ofValue value = .ok style →
        style.Normal ∧ ofValue style.toValue = .ok style ∧
          ofValue (.object style.toPlain) = .ok style) ∧
      (∀ style : Style, style.Normal → ofValue style.toValue = .ok style) ∧
      (∀ style : Style,
        (∃ fields, style.toValue = .object fields ∧
            fields.map Prod.fst = ["whiteSquareColor", "blackSquareColor", "boardWidthPx"]) ∧
          style.toPlain.map Prod.fst =
            ["white_square_color", "black_square_color", "board_width_px"]) ∧
      ∀ object changed : List (String × Value),
        (∀ key, ¬ Shadowed object key → changed.lookup key = object.lookup key) →
          ofValue (.object changed) = ofValue (.object object) := by
  refine ⟨?_, fun _ normal => ofValue_toValue (normal_iff.mp normal),
    fun _ => ⟨⟨_, rfl, rfl⟩, rfl⟩, fun _ _ => ofValue_congr_of_shadowed⟩
  intro value style read
  have valid := valid_of_ofValue read
  exact ⟨normal_iff.mpr valid, ofValue_toValue valid, ofValue_toPlain valid⟩

/-- A blank color, which would be refused, stands beside the stored key of its field. -/
theorem reading_of_two_spellings :
    let object : List (String × Value) :=
      [ ("white_square_color", .text " "), ("whiteSquareColor", .text "\u3000red\t"),
        ("board_width_px", .text " +0_320.0 ") ]
    let style : Style := { light := "red", dark := "#b58862", width := 320 }
    ofValue (.object object) = .ok style ∧ ofValue (.object object.tail) = .ok style ∧
      style.Normal ∧ ofValue (.object style.toPlain) = .ok style := by
  intro object style
  obtain ⟨normalises, -, -, shadowing⟩ := reading_normalises
  have read : ofValue (.object object.tail) = .ok style := by decide +kernel
  have same_result : ofValue (.object object.tail) = ofValue (.object object) := by
    apply shadowing
    intro key unshadowed
    have other : key ≠ "white_square_color" := by
      rintro rfl
      exact unshadowed ⟨.light, rfl, .text "\u3000red\t", rfl⟩
    have differs : (key == "white_square_color") = false := beq_false_of_ne other
    simp only [object, List.tail_cons, List.lookup_cons, differs]
  obtain ⟨normal, -, plain⟩ := normalises _ _ read
  exact ⟨by rw [← same_result, read], read, normal, plain⟩

end Style
end ChessDrawing
