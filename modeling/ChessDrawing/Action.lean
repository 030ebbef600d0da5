/-!
# Actions

An action works on a state and ends in a result or in a fault.  A fault stops the action and leaves
the state as it is by then: what was changed before the fault stays changed.
-/

namespace ChessDrawing

/-- Work on a state that ends in a result or in a fault. -/
abbrev Action (State Fault : Type) :=
  ExceptT Fault (StateM State)

namespace Action

variable {State Part Fault Cause Result Answer : Type}

/-- What an action on a state ends in, and the state after it. -/
def on (action : Action State Fault Result) (state : State) : Except Fault Result × State :=
  (ExceptT.run action).run state

/-- The state after an action, if the action has no fault. -/
def after (action : Action State Fault Result) (state : State) : Except Fault State :=
  match action.on state with
  | (.ok _, next) => .ok next
  | (.error fault, _) => .error fault

/-- Work on a part of a state, which is read from the state and put back whatever the work ends in.
-/
def within (part : State → Part) (put : State → Part → State) (fault : Cause → Fault)
    (work : Action Part Cause Result) : Action State Fault Result :=
  ExceptT.mk fun state =>
    let (result, changed) := work.on (part state)
    (result.mapError fault, put state changed)

variable {action : Action State Fault Result} {next : Result → Action State Fault Answer}
  {state middle final : State} {fault : Fault}

@[simp]
theorem on_pure (result : Result) (state : State) :
    (pure result : Action State Fault Result).on state = (.ok result, state) := rfl

@[simp]
theorem on_throw (fault : Fault) (state : State) :
    (throw fault : Action State Fault Result).on state = (.error fault, state) := rfl

@[simp]
theorem on_get (state : State) : (get : Action State Fault State).on state = (.ok state, state) := rfl

@[simp]
theorem on_set (state changed : State) :
    (set changed : Action State Fault PUnit).on state = (.ok (), changed) := rfl

@[simp]
theorem on_modify (change : State → State) (state : State) :
    (modify change : Action State Fault PUnit).on state = (.ok (), change state) := rfl

@[simp]
theorem on_liftM (result : Except Fault Result) (state : State) :
    (liftM result : Action State Fault Result).on state = (result, state) := rfl

@[simp]
theorem on_adapt (rename : Cause → Fault) (action : Action State Cause Result) (state : State) :
    Action.on (ExceptT.adapt rename action) state =
      ((action.on state).1.mapError rename, (action.on state).2) := rfl

@[simp]
theorem on_within (part : State → Part) (put : State → Part → State) (fault : Cause → Fault)
    (work : Action Part Cause Result) (state : State) :
    (within part put fault work).on state =
      (((work.on (part state)).1).mapError fault, put state (work.on (part state)).2) := rfl

/-- The second action takes the state as the first one leaves it. -/
@[simp]
theorem on_bind (action : Action State Fault Result) (next : Result → Action State Fault Answer)
    (state : State) :
    (action >>= next).on state =
      match action.on state with
      | (.ok result, middle) => (next result).on middle
      | (.error fault, middle) => (.error fault, middle) := by
  simp only [on, ExceptT.run_bind, StateT.run_bind]
  obtain ⟨result, middle⟩ : Except Fault Result × State := (ExceptT.run action).run state
  cases result with
  | ok result => rfl
  | error fault => rfl

@[simp]
theorem on_map (rename : Result → Answer) (action : Action State Fault Result) (state : State) :
    (rename <$> action).on state = ((action.on state).1.map rename, (action.on state).2) := by
  rw [map_eq_pure_bind, on_bind]
  obtain ⟨fault | result, middle⟩ := action.on state
  · rfl
  · rfl

theorem on_bind_of_ok {result : Result} (first : action.on state = (.ok result, middle)) :
    (action >>= next).on state = (next result).on middle := by
  rw [on_bind, first]

theorem on_bind_of_error (first : action.on state = (.error fault, middle)) :
    (action >>= next).on state = (.error fault, middle) := by
  rw [on_bind, first]

theorem after_eq_ok_iff :
    action.after state = .ok final ↔ ∃ result, action.on state = (.ok result, final) := by
  rw [after]
  obtain ⟨fault | result, middle⟩ := action.on state <;> simp

theorem after_eq_error_iff :
    action.after state = .error fault ↔ (action.on state).1 = .error fault := by
  rw [after]
  obtain ⟨cause | result, middle⟩ := action.on state <;> simp

end Action
end ChessDrawing
