import ChessDrawing.Proofs.Settings.Style

/-!
# Changes as overlays

A change acts on a style field by field: a named field takes its new value, with the color trimmed,
and every other field stays what it was.  A changed style is accepted exactly if each named value is
acceptable on its own.  Changes compose as overlays, and changes of different fields commute.
-/

namespace ChessDrawing

/-! ## Fields -/

namespace Style

/-- The value of a field. -/
def value (style : Style) : Field → Value
  | .light => .text style.light
  | .dark => .text style.dark
  | .width => .integer style.width

theorem eq_of_value_eq {first second : Style}
    (same : ∀ field, first.value field = second.value field) : first = second := by
  obtain ⟨light, dark, width⟩ := first
  obtain ⟨light', dark', width'⟩ := second
  obtain rfl := Value.text.inj (same .light)
  obtain rfl := Value.text.inj (same .dark)
  obtain rfl := Value.integer.inj (same .width)
  rfl

/-- The style with its colors trimmed. -/
def trimmed (style : Style) : Style :=
  { style with light := Text.trimmed style.light, dark := Text.trimmed style.dark }

theorem readColor_text_eq_ok_iff {color result : String} :
    readColor (.text color) = .ok result ↔ Text.trimmed color = result ∧ result ≠ "" := by
  simp [readColor_eq_ok_iff]

theorem read_toPlain_eq_ok_iff {α : Type} {style : Style} {field : Field}
    {reader : Value → Except Problem α} {absent result : α} :
    field.read reader absent style.toPlain = .ok result ↔
      reader (style.value field) = .ok result := by
  have found : field.find? style.toPlain = some (field.plainKey, style.value field) := by
    cases field <;> rfl
  simp [Field.read_eq_ok_iff, found]

/-- A style is read from its own fields, with its colors trimmed, if it is valid then. -/
theorem ofObject_toPlain_eq_ok_iff {style result : Style} :
    ofObject style.toPlain = .ok result ↔ style.trimmed.Valid ∧ result = style.trimmed := by
  rw [ofObject_eq_ok_iff, read_toPlain_eq_ok_iff, read_toPlain_eq_ok_iff, read_toPlain_eq_ok_iff,
    value, value, value, readColor_text_eq_ok_iff, readColor_text_eq_ok_iff, readWidth_eq_ok_iff]
  constructor
  · obtain ⟨light, dark, width⟩ := result
    rintro ⟨⟨rfl, light_set⟩, ⟨rfl, dark_set⟩, width_read, positive⟩
    obtain rfl := Except.ok.inj width_read
    refine ⟨⟨⟨light_set, Text.trimmed_trimmed _⟩, ⟨dark_set, Text.trimmed_trimmed _⟩, positive⟩, rfl⟩
  · rintro ⟨valid, rfl⟩
    exact ⟨⟨rfl, valid.light.1⟩, ⟨rfl, valid.dark.1⟩, rfl, valid.width⟩

end Style

namespace Change

variable {change first second : Change} {style result : Style} {field : Style.Field}

/-- The new value of a field, or none if the change does not name the field. -/
def value? (change : Change) (field : Style.Field) : Option Value :=
  change.named.lookup field

theorem value?_light (change : Change) : change.value? .light = change.light.map .text := by
  obtain ⟨light, dark, width⟩ := change
  cases light <;> cases dark <;> cases width <;> rfl

theorem value?_dark (change : Change) : change.value? .dark = change.dark.map .text := by
  obtain ⟨light, dark, width⟩ := change
  cases light <;> cases dark <;> cases width <;> rfl

theorem value?_width (change : Change) : change.value? .width = change.width.map .integer := by
  obtain ⟨light, dark, width⟩ := change
  cases light <;> cases dark <;> cases width <;> rfl

/-- A field of the overlaid style has the new value, or the value of the style if it is not named. -/
theorem value_overlay (change : Change) (style : Style) (field : Style.Field) :
    (change.overlay style).value field = (change.value? field).getD (style.value field) := by
  cases field with
  | light =>
      rw [value?_light, Style.value, overlay]
      cases change.light <;> rfl
  | dark =>
      rw [value?_dark, Style.value, overlay]
      cases change.dark <;> rfl
  | width =>
      rw [value?_width, Style.value, overlay]
      cases change.width <;> rfl

/-! ## Acceptable changes -/

/-- Each named value is acceptable on its own. -/
structure Valid (change : Change) : Prop where
  /-- A color of the light squares is not blank. -/
  light : ∀ color ∈ change.light, Text.trimmed color ≠ ""
  /-- A color of the dark squares is not blank. -/
  dark : ∀ color ∈ change.dark, Text.trimmed color ≠ ""
  /-- A width is positive. -/
  width : ∀ width ∈ change.width, 0 < width

/-- The change with its colors trimmed. -/
def trimmed (change : Change) : Change :=
  { change with
    light := change.light.map Text.trimmed
    dark := change.dark.map Text.trimmed }

theorem value?_trimmed_eq_none_iff :
    change.trimmed.value? field = none ↔ change.value? field = none := by
  cases field with
  | light => simp [value?_light, trimmed]
  | dark => simp [value?_dark, trimmed]
  | width => simp [value?_width, trimmed]

/-- A field that is not named is as it was. -/
theorem value_trimmed_overlay_of_unnamed (unnamed : change.value? field = none) (style : Style) :
    (change.trimmed.overlay style).value field = style.value field := by
  rw [value_overlay, value?_trimmed_eq_none_iff.mpr unnamed, Option.getD_none]

theorem trimmed_overlay (valid : style.Valid) :
    (change.overlay style).trimmed = change.trimmed.overlay style := by
  obtain ⟨light, dark, width⟩ := change
  have light_eq : Text.trimmed (light.getD style.light) =
      (light.map Text.trimmed).getD style.light := by
    cases light with
    | none => exact valid.light.2
    | some color => rfl
  have dark_eq : Text.trimmed (dark.getD style.dark) =
      (dark.map Text.trimmed).getD style.dark := by
    cases dark with
    | none => exact valid.dark.2
    | some color => rfl
  simp only [Style.trimmed, overlay, trimmed, light_eq, dark_eq]

theorem valid_trimmed_overlay_iff (valid : style.Valid) :
    (change.trimmed.overlay style).Valid ↔ change.Valid := by
  obtain ⟨light, dark, width⟩ := change
  have light_iff : Style.ValidColor ((light.map Text.trimmed).getD style.light) ↔
      ∀ color ∈ light, Text.trimmed color ≠ "" := by
    cases light with
    | none => simpa using valid.light
    | some color => simp [Style.ValidColor, Text.trimmed_trimmed]
  have dark_iff : Style.ValidColor ((dark.map Text.trimmed).getD style.dark) ↔
      ∀ color ∈ dark, Text.trimmed color ≠ "" := by
    cases dark with
    | none => simpa using valid.dark
    | some color => simp [Style.ValidColor, Text.trimmed_trimmed]
  have width_iff : 1 ≤ width.getD style.width ↔ ∀ positive ∈ width, 0 < positive := by
    cases width with
    | none => simpa using valid.width
    | some chosen => simp [Int.lt_iff_add_one_le]
  constructor
  · intro changed
    exact ⟨light_iff.mp changed.light, dark_iff.mp changed.dark, width_iff.mp changed.width⟩
  · intro acceptable
    exact ⟨light_iff.mpr acceptable.light, dark_iff.mpr acceptable.dark,
      width_iff.mpr acceptable.width⟩

/-- A change of a valid style is accepted exactly if each named value is acceptable, whatever the
style is, and it lays the trimmed values over the style. -/
theorem apply_eq_ok_iff (valid : style.Valid) :
    change.apply style = .ok result ↔ change.Valid ∧ result = change.trimmed.overlay style := by
  rw [apply, Style.ofObject_toPlain_eq_ok_iff, trimmed_overlay valid,
    valid_trimmed_overlay_iff valid]

/-! ## Composition -/

/-- The change that names the fields of both changes, with the values of the later one where both
name a field. -/
def laidOver (later earlier : Change) : Change :=
  { light := later.light.or earlier.light
    dark := later.dark.or earlier.dark
    width := later.width.or earlier.width }

theorem value?_laidOver (later earlier : Change) (field : Style.Field) :
    (later.laidOver earlier).value? field = (later.value? field).or (earlier.value? field) := by
  cases field with
  | light =>
      rw [value?_light, value?_light, value?_light, laidOver]
      cases later.light <;> rfl
  | dark =>
      rw [value?_dark, value?_dark, value?_dark, laidOver]
      cases later.dark <;> rfl
  | width =>
      rw [value?_width, value?_width, value?_width, laidOver]
      cases later.width <;> rfl

/-- Laying one change over another is laying both over the style in turn. -/
theorem overlay_laidOver (later earlier : Change) (style : Style) :
    (later.laidOver earlier).overlay style = later.overlay (earlier.overlay style) := by
  apply Style.eq_of_value_eq
  intro field
  rw [value_overlay, value_overlay, value_overlay, value?_laidOver]
  cases later.value? field <;> rfl

theorem trimmed_laidOver (later earlier : Change) :
    (later.laidOver earlier).trimmed = later.trimmed.laidOver earlier.trimmed := by
  obtain ⟨light, dark, width⟩ := later
  cases light <;> cases dark <;> rfl

theorem Valid.laidOver {later earlier : Change} (later_valid : later.Valid)
    (earlier_valid : earlier.Valid) : (later.laidOver earlier).Valid := by
  obtain ⟨light, dark, width⟩ := later
  refine ⟨?_, ?_, ?_⟩
  · cases light with
    | none => exact earlier_valid.light
    | some color => exact later_valid.light
  · cases dark with
    | none => exact earlier_valid.dark
    | some color => exact later_valid.dark
  · cases width with
    | none => exact earlier_valid.width
    | some chosen => exact later_valid.width

theorem overlay_overlay_self (change : Change) (style : Style) :
    change.overlay (change.overlay style) = change.overlay style := by
  apply Style.eq_of_value_eq
  intro field
  rw [value_overlay, value_overlay]
  cases change.value? field <;> rfl

/-- No field is named by both changes. -/
def Disjoint (first second : Change) : Prop :=
  ∀ field, first.value? field = none ∨ second.value? field = none

theorem Disjoint.trimmed (disjoint : Disjoint first second) :
    Disjoint first.trimmed second.trimmed := by
  intro field
  rw [value?_trimmed_eq_none_iff, value?_trimmed_eq_none_iff]
  exact disjoint field

/-- Changes of different fields can be laid over a style in either order. -/
theorem overlay_comm (disjoint : Disjoint first second) (style : Style) :
    second.overlay (first.overlay style) = first.overlay (second.overlay style) := by
  apply Style.eq_of_value_eq
  intro field
  rw [value_overlay, value_overlay, value_overlay, value_overlay]
  obtain unnamed | unnamed := disjoint field
  · rw [unnamed, Option.getD_none, Option.getD_none]
  · rw [unnamed, Option.getD_none, Option.getD_none]

end Change
end ChessDrawing
