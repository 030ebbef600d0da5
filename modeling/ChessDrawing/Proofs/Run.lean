import Mathlib

/-!
# Runs

A run takes the steps of a list one after the other, whatever they are answered with.  What every
step keeps is kept by every run.
-/

namespace ChessDrawing

variable {State Step Answer : Type}

/-- The state after some steps. -/
def runSteps (next : State → Step → State) (state : State) (steps : List Step) : State :=
  steps.foldl next state

/-- Some steps, each with its answer. -/
def answerSteps (step : State → Step → Answer × State) (state : State) :
    List Step → List (Step × Answer)
  | [] => []
  | taken :: later => (taken, (step state taken).1) :: answerSteps step (step state taken).2 later

variable {next : State → Step → State} {state : State}

@[simp]
theorem runSteps_nil (next : State → Step → State) (state : State) :
    runSteps next state [] = state := rfl

@[simp]
theorem runSteps_cons (next : State → Step → State) (state : State) (taken : Step)
    (later : List Step) :
    runSteps next state (taken :: later) = runSteps next (next state taken) later := rfl

@[simp]
theorem answerSteps_nil (step : State → Step → Answer × State) (state : State) :
    answerSteps step state [] = [] := rfl

@[simp]
theorem answerSteps_cons (step : State → Step → Answer × State) (state : State) (taken : Step)
    (later : List Step) :
    answerSteps step state (taken :: later) =
      (taken, (step state taken).1) :: answerSteps step (step state taken).2 later := rfl

theorem runSteps_append (next : State → Step → State) (state : State) (before after : List Step) :
    runSteps next state (before ++ after) = runSteps next (runSteps next state before) after :=
  List.foldl_append

/-- A property that every step of a run keeps is kept by the run. -/
theorem runSteps_keeps {Kept : State → Prop} {steps : List Step} (before : Kept state)
    (step_keeps : ∀ taken ∈ steps, ∀ {state : State}, Kept state → Kept (next state taken)) :
    Kept (runSteps next state steps) := by
  induction steps generalizing state with
  | nil => exact before
  | cons taken later ih =>
      rw [List.forall_mem_cons] at step_keeps
      exact ih (step_keeps.1 before) step_keeps.2

end ChessDrawing
