import ChessDrawing.Proofs.Document.Update
import ChessDrawing.Proofs.Drawing.Faithful
import ChessDrawing.Proofs.Text.Digits

/-!
# Typed widths

A width that is typed into the form is accepted if the trimmed text is a positive number in the
digits of any scripts.  It is then stored, loaded, and written in every viewport as the same number
in ASCII digits; a width that is refused changes nothing.  A row that agrees with the new style
without reading as a style refuses the width too, which takes a width of 64 bits.
-/

namespace ChessDrawing

/-! ## Viewports -/

/-- The markup is read as a square viewport whose sides have the given number of pixels, and as no
other element. -/
def Element.ShowsSide (markup : String) (side : Nat) : Prop :=
  ∃ attributes children,
    (∀ tree : Element, tree.isWellNamed ∧ tree.render = markup ↔
      tree = .node "svg" attributes children) ∧
    attributes.lookup "width" = some (toString side) ∧
    attributes.lookup "height" = some (toString side) ∧
    attributes.lookup "viewBox" = some ("0 0 " ++ toString side ++ " " ++ toString side)

namespace Diagram

theorem showsSide_of_render {style : Style} {source markup : String} {side : Nat}
    (side_eq : style.width = side) (rendered : render style source = .ok markup) :
    Element.ShowsSide markup side := by
  simp only [render, bind_eq_ok_iff, mapError_eq_ok_iff] at rendered
  obtain ⟨diagram, built, written⟩ := rendered
  obtain ⟨script, placement, -, -, -, rfl⟩ := ofSource_eq_ok_iff.mp built
  obtain ⟨shown, drawn, rfl⟩ := svg_eq_ok_iff.mp written
  rw [side_eq]
  have well_named := viewport_isWellNamed drawn side
  refine ⟨_, _, fun _ => Element.isWellNamed_and_render_eq_iff well_named, ?_, ?_, ?_⟩
  · rfl
  · rfl
  · rfl

end Diagram

/-! ## Forms -/

namespace Change

variable {typed : String} {change : Change}

/-- The change of the width only. -/
def ofWidth (width : Int) : Change :=
  { light := none, dark := none, width := some width }

theorem valid_ofWidth_iff {width : Int} : (ofWidth width).Valid ↔ 0 < width := by
  constructor
  · intro valid
    exact valid.width width rfl
  · intro positive
    exact ⟨by simp [ofWidth], by simp [ofWidth], by simpa [ofWidth] using positive⟩

theorem overlay_trimmed_ofWidth (width : Int) (style : Style) :
    (ofWidth width).trimmed.overlay style = { style with width } := rfl

/-- The form in which only the width is filled in. -/
def widthForm (typed : String) : List (String × Value) :=
  [(Style.Field.width.plainKey, .text typed)]

/-- A form with a typed width is the change to the number that the trimmed text denotes. -/
theorem ofForm_widthForm_eq_ok_iff
    (short : (Text.trim typed.toList).length ≤ Spelling.maxDigits) :
    ofForm (widthForm typed) = .ok change ↔
      ∃ width : Nat, Text.Denotes (Text.trim typed.toList) width ∧ change = ofWidth width := by
  have no_light : readField .light Value.readText (widthForm typed) = .ok none := rfl
  have no_dark : readField .dark Value.readText (widthForm typed) = .ok none := rfl
  have found : (widthForm typed).lookup Style.Field.width.plainKey = some (.text typed) := rfl
  simp only [← Text.readNatural?_eq_some_iff]
  cases read : Text.readNatural? (Text.trim typed.toList) with
  | none =>
      have refused : readWidth (.text typed) =
          .error (.notDigits (String.ofList (Text.trim typed.toList))) := by
        simp only [readWidth, read]
      have unread : readField .width readWidth (widthForm typed) =
          .error
            { key := some Style.Field.width.plainKey
              problem := .notDigits (String.ofList (Text.trim typed.toList)) } := by
        simp only [readField, found, refused]
      simp [ofForm, no_light, no_dark, unread]
  | some width =>
      have accepted : readWidth (.text typed) = .ok (width : Int) := by
        simp only [readWidth, read, if_neg (Nat.not_lt.mpr short)]
      have width_read : readField .width readWidth (widthForm typed) = .ok (some (width : Int)) := by
        simp only [readField, found, accepted]
      simp [ofForm, no_light, no_dark, width_read, ofWidth, eq_comm]

end Change

/-! ## Updates -/

namespace Session

variable {session next : Session} {typed : String} {width : Nat}

/-- The step that sends a form with a typed width. -/
def typeWidth (typed : String) : Step :=
  .update (Change.widthForm typed)

theorem step_typeWidth (short : (Text.trim typed.toList).length ≤ Spelling.maxDigits)
    (denotes : Text.Denotes (Text.trim typed.toList) width)
    (updated : (update (.ofWidth width)).after session = .ok next) :
    session.step (typeWidth typed) = (.ok (.style next.style), next) :=
  step_of_update ((Change.ofForm_widthForm_eq_ok_iff short).mpr ⟨width, denotes, rfl⟩) updated

theorem exists_width_of_answer (short : (Text.trim typed.toList).length ≤ Spelling.maxDigits)
    {answer : Answer} (answered : (session.step (typeWidth typed)).1 = .ok answer) :
    ∃ (width : Nat) (next : Session), Text.Denotes (Text.trim typed.toList) width ∧
      (update (.ofWidth width)).after session = .ok next := by
  obtain ⟨change, sent, updated⟩ := exists_update_of_answer answered
  obtain ⟨width, denotes, rfl⟩ := (Change.ofForm_widthForm_eq_ok_iff short).mp sent
  exact ⟨width, _, denotes, updated⟩

/-- The width of a valid style can be changed in a store that accepts writes, but for a row that
agrees with the new style and has its width as a double of 64 bits. -/
theorem exists_update_ofWidth_iff (valid : session.style.Valid)
    (accepting : session.store.refusing = false) :
    (∃ next, (update (.ofWidth width)).after session = .ok next) ↔
      0 < width ∧ (2 ^ 63 ≤ width → ∀ fields double,
        session.store.value? owner = some (.object fields) →
          ({ session.style with width } : Style).toValue.agrees (.object fields) = true →
            fields.lookup Style.Field.width.storedKey ≠ some (.real double)) := by
  rw [exists_update_iff valid accepting, Change.valid_ofWidth_iff, Change.overlay_trimmed_ofWidth,
    Int.natCast_pos]
  refine and_congr_right fun positive => ?_
  have positive' : 0 < (width : Int) := Int.natCast_pos.mpr positive
  have changed_valid : Style.Valid { session.style with width } :=
    ⟨valid.light, valid.dark, positive'⟩
  constructor
  · intro reads large fields double row_at agree width_at
    have small := (Style.ofValue_eq_ok_iff_of_agrees changed_valid agree).mp
      (reads _ row_at agree) double width_at
    simp only [Int.natAbs_natCast, Nat.pow_eq] at small
    omega
  · intro no_double row row_at agree
    obtain ⟨fields, rfl, -⟩ := Style.fields_of_agrees agree
    rw [Style.ofValue_eq_ok_iff_of_agrees changed_valid agree]
    intro double width_at
    by_contra large
    simp only [Int.natAbs_natCast, Nat.pow_eq, Nat.not_lt] at large
    exact no_double large fields double row_at agree width_at

theorem markup_of_restyled {style : Style} {source markup : String}
    (side_eq : style.width = width) (restyled : session.Restyled style next)
    (rendered : next.render source = .ok markup ∨
      ∃ renderer, next.renderer Block.ownLanguage = .ok renderer ∧ renderer.run source = .ok markup) :
    Element.ShowsSide markup width := by
  have in_style : renderIn style source = .ok markup := by
    rcases rendered with rendered | ⟨renderer, found, rendered⟩
    · rwa [render, mapError_eq_ok_iff, restyled.in_force] at rendered
    · have registered := restyled.registered
      rw [renderer_eq_ok_iff.mp found, Option.map_some] at registered
      rwa [Option.some.inj registered] at rendered
  exact Diagram.showsSide_of_render side_eq (mapError_eq_ok_iff.mp in_style)

/-- In a session with a valid style whose store accepts writes, a typed width is accepted exactly if
the trimmed text denotes a positive number in decimal digits of any scripts, and the row does not
agree with the new style while it has a width of 64 bits as a double; a row that loads does not.  The
new style has this width and the colors as they were, it is loaded from the store, and every source
that is then rendered has the width in ASCII digits.  A width that is refused leaves the store, the
renderers and the style in force as they were. -/
theorem typed_width_reaches_drawing (valid : session.style.Valid)
    (accepting : session.store.refusing = false)
    (short : (Text.trim typed.toList).length ≤ Spelling.maxDigits) :
    let result := session.step (typeWidth typed)
    ((∃ answer, result.1 = .ok answer) ↔
      ∃ width : Nat, Text.Denotes (Text.trim typed.toList) width ∧ 0 < width ∧
        (2 ^ 63 ≤ width → ∀ fields double,
          session.store.value? owner = some (.object fields) →
            ({ session.style with width } : Style).toValue.agrees (.object fields) = true →
              fields.lookup Style.Field.width.storedKey ≠ some (.real double))) ∧
    (∀ width, Text.Denotes (Text.trim typed.toList) width → 0 < width →
      (∃ stored, session.store.load owner = .ok stored) → ∃ answer, result.1 = .ok answer) ∧
    (∀ width : Nat, Text.Denotes (Text.trim typed.toList) width →
      (∃ answer, result.1 = .ok answer) →
        let style : Style := { session.style with width }
        result.1 = .ok (.style style) ∧ result.2.style = style ∧
          result.2.store.load owner = .ok (some style) ∧
          ∀ source markup,
            (result.2.render source = .ok markup ∨
              ∃ renderer, result.2.renderer Block.ownLanguage = .ok renderer ∧
                renderer.run source = .ok markup) →
            Element.ShowsSide markup width) ∧
    ∀ fault, result.1 = .error fault → result.2 = session := by
  intro result
  refine ⟨⟨?_, ?_⟩, ?_, ?_, fun _ => step_of_error⟩
  · rintro ⟨answer, answered⟩
    obtain ⟨width, next, denotes, updated⟩ := exists_width_of_answer short answered
    exact ⟨width, denotes, (exists_update_ofWidth_iff valid accepting).mp ⟨next, updated⟩⟩
  · rintro ⟨width, denotes, made⟩
    obtain ⟨next, updated⟩ := (exists_update_ofWidth_iff valid accepting).mpr made
    exact ⟨_, congrArg Prod.fst (step_typeWidth short denotes updated)⟩
  · rintro width denotes positive ⟨stored, loaded⟩
    have ready : session.Ready := ⟨valid, accepting, Store.readsBack_of_load loaded⟩
    have acceptable : (Change.ofWidth width).Valid :=
      Change.valid_ofWidth_iff.mpr (Int.natCast_pos.mpr positive)
    obtain ⟨next, updated⟩ := ready.exists_update_iff.mpr acceptable
    exact ⟨_, congrArg Prod.fst (step_typeWidth short denotes updated)⟩
  · rintro width denotes ⟨answer, answered⟩ style
    obtain ⟨width', next, denotes', updated⟩ := exists_width_of_answer short answered
    obtain rfl := denotes.unique denotes'
    obtain ⟨-, restyled⟩ := restyled_of_update valid updated
    have result_eq : result = (.ok (.style next.style), next) :=
      step_typeWidth short denotes updated
    rw [Change.overlay_trimmed_ofWidth] at restyled
    rw [result_eq]
    exact ⟨by rw [restyled.in_force], restyled.in_force, restyled.stored,
      fun _ _ => markup_of_restyled rfl restyled⟩

/-- Arabic, fullwidth and Thai digits between an ideographic space and a line feed are the width 480;
a sign is no digit. -/
theorem typed_width_of_mixed_scripts :
    let style : Style := { Style.default with width := 480 }
    let result := initial.step (typeWidth "\u3000\u0660\u0664\uff18\u0e50\n")
    (result.2.style = style ∧ result.2.store.load owner = .ok (some style) ∧
      ∃ markup, result.2.render "8/8/8/8/8/8/8/8" = .ok markup ∧
        Element.ShowsSide markup 480) ∧
      (initial.step (typeWidth "+480")).2 = initial := by
  intro style result
  have valid : initial.style.Valid := Style.valid_default
  have accepting : initial.store.refusing = false := rfl
  have denotes : Text.Denotes
      (Text.trim "\u3000\u0660\u0664\uff18\u0e50\n".toList) 480 := by
    rw [← Text.readNatural?_eq_some_iff]
    decide +kernel
  constructor
  · obtain ⟨-, accepted, reaches, -⟩ := typed_width_reaches_drawing valid accepting
      (by decide +kernel :
        (Text.trim "\u3000\u0660\u0664\uff18\u0e50\n".toList).length ≤ Spelling.maxDigits)
    have drawn : (Diagram.render style "8/8/8/8/8/8/8/8").isOk = true := by decide +kernel
    obtain ⟨markup, rendered⟩ := isOk_iff_exists.mp drawn
    have answered := accepted 480 denotes (by decide) ⟨none, rfl⟩
    obtain ⟨-, in_force, stored, shows⟩ := reaches 480 denotes answered
    have shown : result.2.render "8/8/8/8/8/8/8/8" = .ok markup := by
      rw [render, in_force, renderIn]
      simp only [mapError_eq_ok_iff]
      exact rendered
    exact ⟨in_force, stored, markup, shown, shows _ _ (Or.inl shown)⟩
  · obtain ⟨accepted_iff, -, -, unchanged⟩ := typed_width_reaches_drawing valid accepting
      (by decide +kernel : (Text.trim "+480".toList).length ≤ Spelling.maxDigits)
    cases answered : (initial.step (typeWidth "+480")).1 with
    | error fault => exact unchanged fault answered
    | ok answer =>
        obtain ⟨width, read, -⟩ := accepted_iff.mp ⟨answer, answered⟩
        rw [← Text.readNatural?_eq_some_iff] at read
        have unread : Text.readNatural? (Text.trim "+480".toList) = none := by decide +kernel
        rw [unread] at read
        cases read

/-- A width of a one and 19 zeros is refused where the row has the default colors and the double of
this size. -/
theorem not_every_typed_width_is_accepted :
    ¬ ∀ (session : Session) (typed : String) (width : Nat), session.style.Valid →
      session.store.refusing = false →
        (Text.trim typed.toList).length ≤ Spelling.maxDigits →
          Text.Denotes (Text.trim typed.toList) width → 0 < width →
            ∃ answer, (session.step (typeWidth typed)).1 = .ok answer := by
  intro all_accepted
  let fields : List (String × Value) :=
    [ ("whiteSquareColor", .text "#f0d9b5"), ("blackSquareColor", .text "#b58862"),
      ("boardWidthPx", .real (.finite false (10000000000000000000 * Binary64.unitsPerOne))) ]
  let session : Session :=
    { initial with store := { rows := [(owner, .object fields)], refusing := false } }
  have short :
      (Text.trim "10000000000000000000".toList).length ≤ Spelling.maxDigits := by
    decide +kernel
  have denotes :
      Text.Denotes (Text.trim "10000000000000000000".toList) 10000000000000000000 := by
    rw [← Text.readNatural?_eq_some_iff]
    decide +kernel
  obtain ⟨answer, answered⟩ := all_accepted session "10000000000000000000" 10000000000000000000
    Style.valid_default rfl short denotes (by decide)
  obtain ⟨width, next, denotes', updated⟩ := exists_width_of_answer short answered
  obtain rfl := denotes.unique denotes'
  obtain ⟨-, no_double⟩ := (exists_update_ofWidth_iff Style.valid_default rfl).mp ⟨next, updated⟩
  have agrees :
      ({ session.style with width := (10000000000000000000 : Nat) } : Style).toValue.agrees
        (.object fields) = true := by
    decide +kernel
  exact no_double (by decide) fields _ rfl agrees rfl

end Session
end ChessDrawing
