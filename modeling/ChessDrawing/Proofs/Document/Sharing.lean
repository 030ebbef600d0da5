import ChessDrawing.Proofs.Document.Update

/-!
# Sessions on one store

Several sessions take turns on one store, each with its own style and renderers.  An update of one of
them stores the style that it has in force, with the named fields replaced.  An unnamed field
therefore keeps its stored value exactly if the session had this value in force: nothing is lost as
long as the row is written by this session only since its last load or update, and a session that
was not loaded, or whose row was written by another one since, writes over what it has not read.
-/

namespace ChessDrawing
namespace Session

/-! ## Turns -/

/-- Sessions that work on one store. -/
structure Team where
  /-- The store that all members share. -/
  store : Store
  /-- The members, whose own stores are not used. -/
  members : Nat → Session

namespace Team

/-- A member with the shared store. -/
def view (team : Team) (who : Nat) : Session :=
  { team.members who with store := team.store }

/-- The team after a step of one member. -/
def step (team : Team) (turn : Nat × Step) : Team :=
  let next := ((team.view turn.1).step turn.2).2
  { store := next.store, members := Function.update team.members turn.1 next }

/-- The team after some turns. -/
abbrev run (team : Team) (turns : List (Nat × Step)) : Team :=
  runSteps step team turns

/-- Only the loads and updates of a member change what is stored for it to load. -/
def Undisturbed (team : Team) (who : Nat) : List (Nat × Step) → Prop
  | [] => True
  | turn :: turns =>
      ((turn.1 = who ∧ (turn.2 = .load ∨ ∃ form, turn.2 = .update form)) ∨
          (team.step turn).store.load owner = team.store.load owner) ∧
        (team.step turn).Undisturbed who turns

/-- An update of a member leaves the value of a field as it is stored, or as it is by default if
nothing is stored. -/
def Keeps (team : Team) (who : Nat) (form : List (String × Value)) (field : Style.Field) : Prop :=
  ∃ stored later, team.store.load owner = .ok stored ∧
    (team.step (who, .update form)).store.load owner = .ok (some later) ∧
      later.value field = (stored.getD Style.default).value field

variable {team : Team} {who : Nat} {turn : Nat × Step} {turns : List (Nat × Step)}
  {form : List (String × Value)} {change : Change} {field : Style.Field}

theorem store_view (team : Team) (who : Nat) : (team.view who).store = team.store := rfl

theorem view_step_self (team : Team) (turn : Nat × Step) :
    (team.step turn).view turn.1 = ((team.view turn.1).step turn.2).2 := by
  simp [view, step]

/-- A turn of another member changes nothing but the store. -/
theorem view_step_of_ne (different : who ≠ turn.1) :
    (team.step turn).view who = { team.view who with store := (team.step turn).store } := by
  simp [view, step, different]

/-! ## Valid styles -/

theorem valid_step (valid : ∀ who, (team.view who).style.Valid) (turn : Nat × Step) (who : Nat) :
    ((team.step turn).view who).style.Valid := by
  by_cases same : who = turn.1
  · subst same
    rw [view_step_self]
    exact @step_keeps _ _ (fun next => next.style.Valid) (valid turn.1)
      fun _ => valid_of_moves (valid turn.1)
  · rw [view_step_of_ne same]
    exact valid who

theorem valid_run (valid : ∀ who, (team.view who).style.Valid) (turns : List (Nat × Step))
    (who : Nat) : ((team.run turns).view who).style.Valid :=
  @runSteps_keeps _ _ _ team (fun team => ∀ who, (team.view who).style.Valid) turns valid
    (fun turn _ _ valid => valid_step valid turn) who

/-! ## Settled members -/

/-- A member has the stored style in force after a load or an update that is answered. -/
theorem settled_step_self {step : Step} (applies : (team.view who).Applies step) :
    ((team.step (who, step)).view who).Settled := by
  rw [view_step_self]
  exact settled_of_applies applies

/-- A member that has the stored style in force has it after a turn that does not disturb it. -/
theorem settled_step (settled : (team.view who).Settled)
    (undisturbed : (turn.1 = who ∧ (turn.2 = .load ∨ ∃ form, turn.2 = .update form)) ∨
      (team.step turn).store.load owner = team.store.load owner) :
    ((team.step turn).view who).Settled := by
  -- its own load or update settles the member anew, and another turn leaves its style alone
  by_cases adopts : turn.1 = who ∧ (turn.2 = .load ∨ ∃ form, turn.2 = .update form)
  · obtain ⟨rfl, adopts⟩ := adopts
    rw [view_step_self]
    exact step_keeps settled fun _ moves => settled_of_moves moves adopts
  · have same_load := undisturbed.resolve_left adopts
    obtain ⟨stored, loaded, style_eq⟩ := settled
    refine ⟨stored, same_load.trans loaded, ?_⟩
    rw [← style_eq]
    by_cases same : who = turn.1
    · subst same
      rw [view_step_self]
      exact @step_keeps _ _ (fun next => next.style = (team.view turn.1).style) rfl
        fun _ moves => style_of_moves moves fun adopting => adopts ⟨rfl, adopting⟩
    · rw [view_step_of_ne same]

theorem settled_run (settled : (team.view who).Settled) (undisturbed : team.Undisturbed who turns) :
    ((team.run turns).view who).Settled := by
  induction turns generalizing team with
  | nil => exact settled
  | cons turn turns ih => exact ih (settled_step settled undisturbed.1) undisturbed.2

/-! ## Updates -/

/-- An update of a member stores its style in force with the trimmed change laid over it. -/
theorem load_step_update (valid : (team.view who).style.Valid)
    (sent : Change.ofForm form = .ok change)
    (applies : (team.view who).Applies (.update form)) :
    (team.step (who, .update form)).store.load owner =
      .ok (some (change.trimmed.overlay (team.view who).style)) :=
  (restyled_of_update valid (update_of_applies sent applies)).2.stored

/-- The stored value of an unnamed field is kept exactly if the member had it in force. -/
theorem keeps_iff (valid : (team.view who).style.Valid) (sent : Change.ofForm form = .ok change)
    (applies : (team.view who).Applies (.update form)) (unnamed : change.value? field = none)
    {stored : Option Style} (loaded : team.store.load owner = .ok stored) :
    team.Keeps who form field ↔
      (team.view who).style.value field = (stored.getD Style.default).value field := by
  have later_loaded := load_step_update valid sent applies
  rw [← Change.value_trimmed_overlay_of_unnamed unnamed]
  constructor
  · rintro ⟨stored', later', loaded', later_loaded', kept⟩
    obtain rfl := Except.ok.inj (loaded.symm.trans loaded')
    obtain rfl := Option.some.inj (Except.ok.inj (later_loaded.symm.trans later_loaded'))
    exact kept
  · intro kept
    exact ⟨stored, _, loaded, later_loaded, kept⟩

/-- A member that has the stored style in force keeps the stored value of each unnamed field. -/
theorem keeps_of_settled (valid : (team.view who).style.Valid)
    (settled : (team.view who).Settled) (sent : Change.ofForm form = .ok change)
    (applies : (team.view who).Applies (.update form)) (unnamed : change.value? field = none) :
    team.Keeps who form field := by
  obtain ⟨stored, loaded, style_eq⟩ := settled
  exact (keeps_iff valid sent applies unnamed loaded).mpr (by rw [style_eq])

/-- After every run of a team that begins with default styles, whatever is stored: an update that is
answered stores the style that the member had in force, with the change laid over it, so that a field
it does not name has the value that was in force.  The stored value of such a field is kept exactly
if it was this value.  It is kept whenever nobody else has changed what is stored since the last
answered load or update of the member, and for a member without one since the beginning, if nothing
was stored then. -/
theorem update_stores_unnamed_in_force {start : Team}
    (fresh : ∀ who, (start.members who).style = Style.default) (turns : List (Nat × Step))
    (who : Nat) {form : List (String × Value)} {change : Change} {field : Style.Field}
    (sent : Change.ofForm form = .ok change) (unnamed : change.value? field = none)
    (applies : ((start.run turns).view who).Applies (.update form)) :
    let current := start.run turns
    (current.step (who, .update form)).store.load owner =
        .ok (some (change.trimmed.overlay (current.view who).style)) ∧
      (change.trimmed.overlay (current.view who).style).value field =
        (current.view who).style.value field ∧
      (∀ stored, current.store.load owner = .ok stored →
        (current.Keeps who form field ↔
          (current.view who).style.value field = (stored.getD Style.default).value field)) ∧
      (∀ before step after, turns = before ++ (who, step) :: after →
        ((start.run before).view who).Applies step →
        ((start.run before).step (who, step)).Undisturbed who after →
          current.Keeps who form field) ∧
      (start.store.load owner = .ok none → start.Undisturbed who turns →
        current.Keeps who form field) := by
  intro current
  have valid : (current.view who).style.Valid := by
    refine valid_run (fun other => ?_) turns who
    rw [view, fresh other]
    exact Style.valid_default
  refine ⟨load_step_update valid sent applies,
    Change.value_trimmed_overlay_of_unnamed unnamed _,
    fun stored => keeps_iff valid sent applies unnamed, ?_, ?_⟩
  · rintro before step after rfl settles undisturbed
    refine keeps_of_settled valid ?_ sent applies unnamed
    have settled := settled_run (settled_step_self settles) undisturbed
    simpa only [current, run, runSteps_append, runSteps_cons] using settled
  · intro nothing_stored undisturbed
    refine keeps_of_settled valid (settled_run ?_ undisturbed) sent applies unnamed
    exact ⟨none, nothing_stored, fresh who⟩

/-- Two members load a stored width of 480, and the second one sets a color.  Then the second keeps
this color and the width in its next update, and the first writes over the color. -/
theorem update_of_two_members :
    let start : Team :=
      { store :=
          { rows := [(owner, .object [("boardWidthPx", .integer 480)])], refusing := false }
        members := fun _ => initial }
    let current :=
      start.run [(0, .load), (1, .load), (1, .update [("white_square_color", .text "red")])]
    let form := [("black_square_color", Value.text "navy")]
    current.Keeps 1 form .light ∧ current.Keeps 1 form .width ∧ ¬ current.Keeps 0 form .light := by
  intro start current form
  have fresh (who : Nat) : (start.members who).style = Style.default := rfl
  have sent : Change.ofForm form = .ok { light := none, dark := some "navy", width := none } := by
    decide +kernel
  have answered (who : Nat) (known : who = 0 ∨ who = 1) :
      (current.view who).Applies (.update form) := by
    refine ⟨Or.inr ⟨_, rfl⟩, isOk_iff_exists.mp ?_⟩
    obtain rfl | rfl := known <;> simp only [current, start, form] <;> decide +kernel
  have updated : ((start.run [(0, .load), (1, .load)]).view 1).Applies
      (.update [("white_square_color", .text "red")]) := by
    refine ⟨Or.inr ⟨_, rfl⟩, isOk_iff_exists.mp ?_⟩
    simp only [start]
    decide +kernel
  have kept (field : Style.Field) (unnamed : field ≠ .dark) : current.Keeps 1 form field := by
    have unnamed' : Change.value? { light := none, dark := some "navy", width := none } field =
        none := by
      cases field with
      | dark => exact absurd rfl unnamed
      | _ => rfl
    obtain ⟨-, -, -, keeps, -⟩ :=
      update_stores_unnamed_in_force fresh _ 1 sent unnamed' (answered 1 (Or.inr rfl))
    exact keeps [(0, .load), (1, .load)] _ [] rfl updated trivial
  refine ⟨kept .light (by decide), kept .width (by decide), ?_⟩
  obtain ⟨stored, loaded, style_eq⟩ : (current.view 1).Settled := settled_step_self updated
  rw [store_view] at loaded
  have unnamed : Change.value? { light := none, dark := some "navy", width := none } .light =
      none := rfl
  obtain ⟨-, -, keeps_iff, -⟩ :=
    update_stores_unnamed_in_force fresh _ 0 sent unnamed (answered 0 (Or.inl rfl))
  intro kept_light
  have same := (keeps_iff stored loaded).mp kept_light
  have different : (current.view 0).style.light ≠ (current.view 1).style.light := by
    simp only [current, start]
    decide +kernel
  exact different (Value.text.inj (same.trans (by rw [← style_eq]; rfl)))

/-- A member that was not loaded writes its default width over a stored width of 480 when it sets a
color. -/
theorem not_every_unnamed_field_is_kept :
    ¬ ∀ (team : Team) (who : Nat) (form : List (String × Value)) (change : Change)
        (field : Style.Field),
      (∀ who, (team.members who).style = Style.default) →
      (∃ stored, team.store.load owner = .ok stored) → Change.ofForm form = .ok change →
      change.value? field = none → (team.view who).Applies (.update form) →
        team.Keeps who form field := by
  intro all_kept
  let team : Team :=
    { store := { rows := [(owner, .object [("boardWidthPx", .integer 480)])], refusing := false }
      members := fun _ => initial }
  have loaded : team.store.load owner = .ok (some { Style.default with width := 480 }) :=
    Store.load_of_value? rfl (by decide +kernel)
  have sent : Change.ofForm [("white_square_color", Value.text "red")] =
      .ok { light := some "red", dark := none, width := none } := by
    decide +kernel
  have applies : (team.view 0).Applies (.update [("white_square_color", .text "red")]) := by
    refine ⟨Or.inr ⟨_, rfl⟩, isOk_iff_exists.mp ?_⟩
    simp only [team]
    decide +kernel
  have kept := all_kept team 0 _ _ .width (fun _ => rfl) ⟨_, loaded⟩ sent rfl applies
  have valid : (team.view 0).style.Valid := Style.valid_default
  have same := (keeps_iff valid sent applies rfl loaded).mp kept
  cases Value.integer.inj same

end Team
end Session
end ChessDrawing
