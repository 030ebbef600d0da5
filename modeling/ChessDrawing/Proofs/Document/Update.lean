import ChessDrawing.Proofs.Document.Run
import ChessDrawing.Proofs.Settings.Change

/-!
# Updates of a session

An update that succeeds lays the change over the style in force, stores the result and renders in
it, and nothing else can be told from it.  Therefore updates compose as their changes do: two in turn
are one with both changes, the same one again does nothing, and two of different fields can be made
in either order, whichever of them are rejected.  An update of a valid style in a store that accepts
writes fails with an acceptable change only where the row agrees with the new style and still does
not read, which takes a width of 64 bits.
-/

namespace ChessDrawing
namespace Session

variable {session middle next rival : Session} {change first second : Change} {style : Style}

/-! ## What an update changes -/

/-- A style was put in force, stored, and registered for rendering, and nothing else was done. -/
structure Restyled (session : Session) (style : Style) (next : Session) : Prop where
  /-- The style is in force. -/
  in_force : next.style = style
  /-- The style is stored. -/
  stored : next.store.load owner = .ok (some style)
  /-- The rows of others are as before. -/
  rows : ∀ other, other ≠ owner → next.store.value? other = session.store.value? other
  /-- The store accepts writes as before. -/
  refusing : next.store.refusing = session.store.refusing
  /-- The own language is rendered in the style. -/
  registered : (next.renderers.renderer? Block.ownLanguage).map Renderer.run =
    some (renderIn style)
  /-- Other languages are rendered as before. -/
  foreign : ∀ language, language ≠ Block.ownLanguage →
    next.renderers.renderer? language = session.renderers.renderer? language
  /-- The renderers that were kept are still kept. -/
  kept : next.kept = session.kept

/-- Two sessions have the same style, store the same styles, and render in the same way. -/
structure Alike (first second : Session) : Prop where
  /-- The same style is in force. -/
  style : first.style = second.style
  /-- The same styles are stored. -/
  stored : ∀ other, first.store.load other = second.store.load other
  /-- The rows of others are the same. -/
  rows : ∀ other, other ≠ owner → first.store.value? other = second.store.value? other
  /-- Both stores accept writes, or both refuse them. -/
  refusing : first.store.refusing = second.store.refusing
  /-- Every language is rendered in the same way. -/
  renders : ∀ language, (first.renderers.renderer? language).map Renderer.run =
    (second.renderers.renderer? language).map Renderer.run
  /-- The same renderers are kept. -/
  kept : first.kept = second.kept

theorem Alike.refl (session : Session) : Alike session session :=
  ⟨rfl, fun _ => rfl, fun _ _ => rfl, rfl, fun _ => rfl, rfl⟩

theorem Restyled.trans {style' : Style} (before : session.Restyled style middle)
    (after : middle.Restyled style' next) : session.Restyled style' next where
  in_force := after.in_force
  stored := after.stored
  rows other different := (after.rows other different).trans (before.rows other different)
  refusing := after.refusing.trans before.refusing
  registered := after.registered
  foreign language different :=
    (after.foreign language different).trans (before.foreign language different)
  kept := after.kept.trans before.kept

/-- What an update of a session leads to is determined by the style. -/
theorem Restyled.alike (one : session.Restyled style next) (another : session.Restyled style rival) :
    Alike next rival where
  style := one.in_force.trans another.in_force.symm
  stored other := by
    by_cases own : other = owner
    · rw [own, one.stored, another.stored]
    · exact Store.load_congr ((one.rows other own).trans (another.rows other own).symm)
  rows other different := (one.rows other different).trans (another.rows other different).symm
  refusing := one.refusing.trans another.refusing.symm
  renders language := by
    by_cases own : language = Block.ownLanguage
    · rw [own, one.registered, another.registered]
    · rw [one.foreign language own, another.foreign language own]
  kept := one.kept.trans another.kept.symm

theorem Restyled.exists_renderer (restyled : session.Restyled style next) :
    ∃ renderer, next.renderers.renderer? Block.ownLanguage = some renderer ∧
      ∀ source, renderer.run source = (Diagram.render style source).mapError .diagram := by
  obtain ⟨renderer, found, run_eq⟩ := Option.map_eq_some_iff.mp restyled.registered
  refine ⟨renderer, found, fun source => ?_⟩
  rw [run_eq, renderIn]

theorem restyled_of_save {stored : Style} {saved : Store} (valid : style.Valid)
    (saved_eq : (Store.save owner style).on session.store = (.ok stored, saved)) :
    session.Restyled style ({ session with store := saved }.adopt style) := by
  obtain ⟨-, loaded⟩ := Store.load_of_save valid saved_eq
  obtain ⟨-, rfl, -⟩ := Store.save_eq_ok_iff.mp saved_eq
  refine ⟨rfl, loaded, fun other different => ?_, ?_, ?_, ?_, rfl⟩
  · exact @Store.value?_seed_of_ne session.store owner other style.toValue different
  · exact Store.refusing_seed session.store owner style.toValue
  · rw [adopt, renderer?_register_self]
    rfl
  · intro language different
    exact renderer?_register_of_ne different _ _

/-- An update that succeeds had an acceptable change, and lays it over the style in force. -/
theorem restyled_of_update (valid : session.style.Valid) (updated : (update change).after session = .ok next) :
    change.Valid ∧ session.Restyled (change.trimmed.overlay session.style) next := by
  obtain ⟨style, stored, saved, applied, saved_eq, rfl⟩ := after_update_eq_ok_iff.mp updated
  obtain ⟨acceptable, rfl⟩ := (Change.apply_eq_ok_iff valid).mp applied
  exact ⟨acceptable, restyled_of_save (valid_of_apply applied) saved_eq⟩

/-- A step that is answered with a changed style is the update with the change of its form. -/
theorem exists_update_of_answer {form : List (String × Value)} {answer : Answer}
    (answered : (session.step (.update form)).1 = .ok answer) :
    ∃ change, Change.ofForm form = .ok change ∧
      (update change).after session = .ok (session.step (.update form)).2 := by
  have moves := moves_of_answer answered
  generalize (session.step (.update form)).2 = next at moves ⊢
  cases moves with
  | update sent applied saving =>
      exact ⟨_, sent, after_update_eq_ok_iff.mpr ⟨_, _, _, applied, saving, rfl⟩⟩

theorem update_of_applies {form : List (String × Value)} (sent : Change.ofForm form = .ok change)
    (applies : session.Applies (.update form)) :
    (update change).after session = .ok (session.step (.update form)).2 := by
  obtain ⟨-, answer, answered⟩ := applies
  obtain ⟨other, sent', updated⟩ := exists_update_of_answer answered
  obtain rfl := Except.ok.inj (sent.symm.trans sent')
  exact updated

/-- An update that succeeds is answered with the style that is then in force. -/
theorem step_of_update {form : List (String × Value)} (sent : Change.ofForm form = .ok change)
    (updated : (update change).after session = .ok next) :
    session.step (.update form) = (.ok (.style next.style), next) := by
  obtain ⟨style, stored, saved, applied, saving, rfl⟩ := after_update_eq_ok_iff.mp updated
  simp [step, act, sent, on_update_of_apply applied, saving, adopt]

theorem store_of_update (valid : session.style.Valid) (updated : (update change).after session = .ok next) :
    next.store =
      session.store.seed owner (change.trimmed.overlay session.style).toValue := by
  obtain ⟨style, stored, saved, applied, saved_eq, rfl⟩ := after_update_eq_ok_iff.mp updated
  obtain ⟨-, rfl⟩ := (Change.apply_eq_ok_iff valid).mp applied
  exact (Store.save_eq_ok_iff.mp saved_eq).2.1

/-! ## When an update succeeds -/

/-- The style in force is valid, the store accepts writes, and the own row is read back. -/
structure Ready (session : Session) : Prop where
  /-- The style in force is valid. -/
  valid : session.style.Valid
  /-- The store accepts writes. -/
  accepting : session.store.refusing = false
  /-- A valid style that the own row agrees with is read from it. -/
  reads_back : session.store.ReadsBack owner

/-- An update succeeds exactly if its change is acceptable and the row does not agree with the new
style without reading as it. -/
theorem exists_update_iff (valid : session.style.Valid) (accepting : session.store.refusing = false) :
    (∃ next, (update change).after session = .ok next) ↔
      change.Valid ∧ ∀ row, session.store.value? owner = some row →
        (change.trimmed.overlay session.style).toValue.agrees row = true →
          Style.ofValue row = .ok (change.trimmed.overlay session.style) := by
  constructor
  · rintro ⟨next, updated⟩
    obtain ⟨style, stored, saved, applied, saved_eq, -⟩ := after_update_eq_ok_iff.mp updated
    obtain ⟨acceptable, rfl⟩ := (Change.apply_eq_ok_iff valid).mp applied
    have changed_valid := valid_of_apply applied
    obtain ⟨rfl, -⟩ := Store.load_of_save changed_valid saved_eq
    obtain ⟨-, rfl, -⟩ := Store.save_eq_ok_iff.mp saved_eq
    exact ⟨acceptable, (Store.save_eq_ok_iff_of_valid changed_valid accepting).mp saved_eq⟩
  · rintro ⟨acceptable, reads⟩
    have applied := (Change.apply_eq_ok_iff valid).mpr ⟨acceptable, rfl⟩
    have saved_eq := (Store.save_eq_ok_iff_of_valid (valid_of_apply applied) accepting).mpr reads
    exact ⟨_, after_update_eq_ok_iff.mpr ⟨_, _, _, applied, saved_eq, rfl⟩⟩

/-- An acceptable change to a width of less than 64 bits is made whatever the row is. -/
theorem exists_update_of_lt (valid : session.style.Valid)
    (accepting : session.store.refusing = false) (acceptable : change.Valid)
    (small : (change.trimmed.overlay session.style).width.natAbs < 2 ^ 63) :
    ∃ next, (update change).after session = .ok next := by
  refine (exists_update_iff valid accepting).mpr ⟨acceptable, fun row _ agree => ?_⟩
  have changed_valid := (Change.valid_trimmed_overlay_iff valid).mpr acceptable
  exact Style.ofValue_of_agrees_of_lt changed_valid small agree

theorem Ready.exists_update_iff (ready : session.Ready) :
    (∃ next, (update change).after session = .ok next) ↔ change.Valid := by
  rw [Session.exists_update_iff ready.valid ready.accepting]
  refine and_iff_left_of_imp fun acceptable row => ?_
  exact ready.reads_back _ row ((Change.valid_trimmed_overlay_iff ready.valid).mpr acceptable)

/-- An update that succeeds leaves a row that is read back. -/
theorem ready_of_update (valid : session.style.Valid) (accepting : session.store.refusing = false)
    (updated : (update change).after session = .ok next) : next.Ready := by
  obtain ⟨acceptable, restyled⟩ := restyled_of_update valid updated
  refine ⟨?_, restyled.refusing.trans accepting, Store.readsBack_of_load restyled.stored⟩
  rw [restyled.in_force]
  exact (Change.valid_trimmed_overlay_iff valid).mpr acceptable

/-! ## Updates in turn -/

/-- The session after an update, whatever it is answered with. -/
def updated (session : Session) (change : Change) : Session :=
  ((update change).on session).2

theorem updated_of_update (updated_eq : (update change).after session = .ok next) :
    session.updated change = next := by
  obtain ⟨style, made⟩ := Action.after_eq_ok_iff.mp updated_eq
  rw [updated, made]

theorem updated_of_error {fault : StepFault} (failed : (update change).after session = .error fault) :
    session.updated change = session := by
  rw [Action.after_eq_error_iff] at failed
  obtain ⟨other, unchanged⟩ | ⟨style, stored, saved, -, -, made⟩ := on_update_cases session change
  · rw [updated, unchanged]
  · rw [made] at failed
    cases failed

theorem Ready.updated_of_valid (ready : session.Ready) (acceptable : change.Valid) :
    session.Restyled (change.trimmed.overlay session.style) (session.updated change) := by
  obtain ⟨next, succeeded⟩ := ready.exists_update_iff.mpr acceptable
  rw [updated_of_update succeeded]
  exact (restyled_of_update ready.valid succeeded).2

theorem Ready.updated_of_not_valid (ready : session.Ready) (refused : ¬ change.Valid) :
    session.updated change = session := by
  cases result : (update change).after session with
  | ok next => exact absurd (ready.exists_update_iff.mp ⟨next, result⟩) refused
  | error fault => exact updated_of_error result

theorem Ready.updated (ready : session.Ready) (change : Change) :
    (session.updated change).Ready := by
  cases result : (update change).after session with
  | ok next =>
      rw [updated_of_update result]
      exact ready_of_update ready.valid ready.accepting result
  | error fault => rwa [updated_of_error result]

/-- Two updates in turn do what one update with the second change laid over the first does. -/
theorem Ready.exists_update_laidOver (ready : session.Ready)
    (earlier : (update first).after session = .ok middle) (later : (update second).after middle = .ok next) :
    ∃ once, (update (second.laidOver first)).after session = .ok once ∧ Alike next once := by
  obtain ⟨first_valid, to_middle⟩ := restyled_of_update ready.valid earlier
  have middle_ready := ready_of_update ready.valid ready.accepting earlier
  obtain ⟨second_valid, to_next⟩ := restyled_of_update middle_ready.valid later
  obtain ⟨once, at_once⟩ := ready.exists_update_iff.mpr (second_valid.laidOver first_valid)
  obtain ⟨-, to_once⟩ := restyled_of_update ready.valid at_once
  rw [Change.trimmed_laidOver, Change.overlay_laidOver, ← to_middle.in_force] at to_once
  exact ⟨once, at_once, (to_middle.trans to_next).alike to_once⟩

/-- The same update again changes nothing, not even the spelling of the row. -/
theorem exists_update_again (valid : session.style.Valid)
    (accepting : session.store.refusing = false) (once : (update change).after session = .ok next) :
    ∃ again, (update change).after next = .ok again ∧ again.store = next.store ∧ Alike again next := by
  obtain ⟨acceptable, to_next⟩ := restyled_of_update valid once
  have next_ready := ready_of_update valid accepting once
  obtain ⟨again, twice⟩ := next_ready.exists_update_iff.mpr acceptable
  obtain ⟨-, to_again⟩ := restyled_of_update next_ready.valid twice
  have same_style : change.trimmed.overlay next.style = change.trimmed.overlay session.style := by
    rw [to_next.in_force, Change.overlay_overlay_self]
  rw [same_style] at to_again
  refine ⟨again, twice, ?_, (to_next.trans to_again).alike to_next⟩
  rw [store_of_update next_ready.valid twice, same_style, store_of_update valid once]
  exact Store.seed_of_holds (Store.holds_seed_toValue _ _ _)

/-- Updates of different fields can be made in either order, also if one of them or both fail. -/
theorem Ready.updated_comm (ready : session.Ready) (disjoint : Change.Disjoint first second) :
    Alike ((session.updated first).updated second) ((session.updated second).updated first) := by
  by_cases first_valid : first.Valid
  · by_cases second_valid : second.Valid
    · have to_first := ready.updated_of_valid first_valid
      have to_second := ready.updated_of_valid second_valid
      have then_second := (ready.updated first).updated_of_valid second_valid
      have then_first := (ready.updated second).updated_of_valid first_valid
      rw [to_first.in_force, Change.overlay_comm disjoint.trimmed] at then_second
      rw [to_second.in_force] at then_first
      exact (to_first.trans then_second).alike (to_second.trans then_first)
    · rw [ready.updated_of_not_valid second_valid,
        (ready.updated first).updated_of_not_valid second_valid]
      exact Alike.refl _
  · rw [ready.updated_of_not_valid first_valid,
      (ready.updated second).updated_of_not_valid first_valid]
    exact Alike.refl _

/-! ## Overlays -/

/-- In a session with a valid style whose store accepts writes, an update succeeds exactly if each
named value is acceptable on its own and the row does not agree with the new style without reading
as it; whatever the row is, this takes a new width of 64 bits.  Then each named field has the trimmed
new value and every other field is as it was, this style is stored, and each source is given the
markup of its diagram in this style; the same update again changes nothing.  Where the row is read
back, the acceptable changes are those that are made, two updates in turn do what one with the later
change laid over the earlier one does, and updates of different fields can be made in either order. -/
theorem update_overlays (valid : session.style.Valid) (accepting : session.store.refusing = false) :
    (∀ change : Change, (∃ next, (update change).after session = .ok next) ↔
        change.Valid ∧ ∀ row, session.store.value? owner = some row →
          (change.trimmed.overlay session.style).toValue.agrees row = true →
            Style.ofValue row = .ok (change.trimmed.overlay session.style)) ∧
      (∀ change : Change, change.Valid →
        (change.trimmed.overlay session.style).width.natAbs < 2 ^ 63 →
          ∃ next, (update change).after session = .ok next) ∧
      (∀ change next, (update change).after session = .ok next →
        (∀ field, next.style.value field =
          (change.trimmed.value? field).getD (session.style.value field)) ∧
        next.store.load owner = .ok (some next.style) ∧
        (∃ renderer, next.renderers.renderer? Block.ownLanguage = some renderer ∧
          ∀ source, renderer.run source =
            (Diagram.render next.style source).mapError .diagram) ∧
        ∃ again, (update change).after next = .ok again ∧ again.store = next.store ∧
          Alike again next) ∧
      (session.store.ReadsBack owner →
        (∀ change, (∃ next, (update change).after session = .ok next) ↔ change.Valid) ∧
        (∀ first second middle next, (update first).after session = .ok middle →
          (update second).after middle = .ok next →
            ∃ once, (update (second.laidOver first)).after session = .ok once ∧
              Alike next once) ∧
        ∀ first second, Change.Disjoint first second →
          Alike ((session.updated first).updated second)
            ((session.updated second).updated first)) := by
  refine ⟨fun _ => exists_update_iff valid accepting,
    fun _ => exists_update_of_lt valid accepting, ?_, ?_⟩
  · intro change next succeeded
    obtain ⟨-, restyled⟩ := restyled_of_update valid succeeded
    obtain ⟨again, twice, same_store, alike⟩ := exists_update_again valid accepting succeeded
    rw [restyled.in_force]
    exact ⟨Change.value_overlay change.trimmed session.style, restyled.stored,
      restyled.exists_renderer, again, twice, same_store, alike⟩
  · intro reads_back
    have ready : session.Ready := ⟨valid, accepting, reads_back⟩
    exact ⟨fun _ => ready.exists_update_iff, fun _ _ _ _ => ready.exists_update_laidOver,
      fun _ _ => ready.updated_comm⟩

/-- Before it is loaded, a stored width is written over by the width in force; a blank color refuses
a width that comes with it; and a color and a width can be set in either order. -/
theorem update_overlays_stored_width :
    let session : Session :=
      { initial with
        store :=
          { rows := [(owner, .object [("boardWidthPx", .integer 480)])], refusing := false } }
    let reddened : Change := { light := some " red ", dark := none, width := none }
    let narrowed : Change := { light := none, dark := none, width := some 64 }
    (∃ next, (update reddened).after session = .ok next ∧
        next.store.load owner = .ok (some { Style.default with light := "red" })) ∧
      (¬ ∃ next, (update { narrowed with dark := some " " }).after session = .ok next) ∧
      Alike ((session.updated reddened).updated narrowed)
        ((session.updated narrowed).updated reddened) := by
  intro session reddened narrowed
  have loaded : session.store.load owner = .ok (some { Style.default with width := 480 }) :=
    Store.load_of_value? rfl (by decide +kernel)
  have valid : session.style.Valid := Style.valid_default
  have accepting : session.store.refusing = false := rfl
  obtain ⟨-, -, overlays, where_read⟩ := update_overlays valid accepting
  obtain ⟨succeeds, -, commute⟩ := where_read (Store.readsBack_of_load loaded)
  refine ⟨?_, ?_, ?_⟩
  · have acceptable : reddened.Valid := ⟨by decide +kernel, by decide, by decide⟩
    obtain ⟨next, succeeded⟩ := (succeeds reddened).mpr acceptable
    obtain ⟨values, stored, -⟩ := overlays reddened next succeeded
    have style_eq : next.style = { Style.default with light := "red" } := by
      apply Style.eq_of_value_eq
      intro field
      rw [values]
      cases field <;> rfl
    exact ⟨next, succeeded, style_eq ▸ stored⟩
  · rw [succeeds]
    intro acceptable
    exact acceptable.dark " " rfl (by decide +kernel)
  · apply commute
    intro field
    cases field <;> decide

/-- A width of a one and 19 zeros is refused where the row has the default colors and the double of
this size: the row agrees with the new style, is not written, and does not read. -/
theorem not_every_acceptable_change_is_made :
    ¬ ∀ (session : Session) (change : Change), session.style.Valid →
      session.store.refusing = false → change.Valid →
        ∃ next, (update change).after session = .ok next := by
  intro all_made
  let row : Value := .object
    [ ("whiteSquareColor", .text "#f0d9b5"), ("blackSquareColor", .text "#b58862"),
      ("boardWidthPx", .real (.finite false (10000000000000000000 * Binary64.unitsPerOne))) ]
  let session : Session :=
    { initial with store := { rows := [(owner, row)], refusing := false } }
  let change : Change := { light := none, dark := none, width := some 10000000000000000000 }
  have acceptable : change.Valid := ⟨by decide, by decide, by decide⟩
  have made := all_made session change Style.valid_default rfl acceptable
  obtain ⟨-, reads⟩ := (exists_update_iff Style.valid_default rfl).mp made
  have agrees : (change.trimmed.overlay session.style).toValue.agrees row = true := by
    decide +kernel
  have unread : Style.ofValue row ≠ .ok (change.trimmed.overlay session.style) := by
    decide +kernel
  exact unread (reads row rfl agrees)

end Session
end ChessDrawing
