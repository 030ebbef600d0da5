import ChessDrawing.Action
import ChessDrawing.Number.WordDecimal
import ChessDrawing.Settings.Style
import ChessDrawing.Table

/-!
# The settings store

The store has at most one row per owner, and a row is one settings value.  Loading checks the stored
value; saving replaces it, then reads it back and gives the result.  A row that already agrees with a
new value is left as it is, so that saving such a value succeeds even while the store refuses writes.
A lone number is written as a decimal, and the row holds what that decimal is read as.
-/

namespace ChessDrawing

/-- Stored settings, one row per owner. -/
structure Store where
  /-- The rows in the order of their first writing. -/
  rows : Table Value
  /-- Whether the store refuses to write. -/
  refusing : Bool

/-- Why settings cannot be loaded or saved. -/
inductive StoreFault where
  /-- The stored value of an owner is not a style. -/
  | invalid (owner : String) (stored : Value)
  /-- The store refused to write the row of an owner. -/
  | refused (owner : String)

namespace StoreFault

/-- The message of a fault of the store. -/
def message : StoreFault → String
  | .invalid owner stored =>
      "Stored settings for " ++ Text.quoted owner ++ " are invalid: " ++ stored.shown
  | .refused owner => "Could not store settings for " ++ Text.quoted owner

end StoreFault

namespace Store

/-- Why a step of work with a store has no result. -/
inductive StepFault where
  /-- A settings value is not a style. -/
  | settings (faults : List FieldFault)
  /-- The store could not load or save. -/
  | store (fault : StoreFault)

/-- The store without rows. -/
def empty : Store :=
  { rows := [], refusing := false }

/-- The stored value of an owner. -/
def value? (store : Store) (owner : String) : Option Value :=
  store.rows.lookup owner

/-- Whether the row of an owner already agrees with a value. -/
def holds (store : Store) (owner : String) (value : Value) : Bool :=
  (store.value? owner).any value.agrees

/-- A double in a row, which is an integer there if it is one of less than 64 bits. -/
def rowNumber (value : Binary64) : Value :=
  match value.integer? with
  | some whole => if whole.natAbs < Nat.pow 2 63 then .integer whole else .real value
  | none => .real value

/-- The form of a value in a row: a lone number is read from its decimal, unless it is an integer of
64 bits or not finite. -/
def rowForm : Value → Value
  | .integer value =>
      if -Nat.pow 2 63 ≤ value ∧ value < Nat.pow 2 63 then
        .integer value
      else
        rowNumber (WordDecimal.ofInt value).toBinary64
  | .real (.finite negative units) =>
      rowNumber (WordDecimal.ofUnits negative units).toBinary64
  | value => value

/-- Write a value into the row of an owner, whatever it is. -/
def seed (store : Store) (owner : String) (value : Value) : Store :=
  if store.holds owner value then
    store
  else
    { store with rows := store.rows.put owner (rowForm value) }

/-- Let the store refuse writes, or accept them again. -/
def refuse (store : Store) (refusing : Bool) : Store :=
  { store with refusing }

/-- The stored style of an owner, or none if nothing is stored. -/
def load (store : Store) (owner : String) : Except StoreFault (Option Style) :=
  match store.value? owner with
  | none => .ok none
  | some value =>
      match Style.ofValue value with
      | .ok style => .ok (some style)
      | .error _ => .error (.invalid owner value)

/-- Write a style into the row of an owner, unless the store refuses to. -/
def commit (owner : String) (style : Style) : Action Store StepFault Unit := do
  let store ← get
  if store.refusing && !store.holds owner style.toValue then
    throw (.store (.refused owner))
  else
    set (store.seed owner style.toValue)

/-- Save a style for an owner, and read back the style that is then stored. -/
def save (owner : String) (style : Style) : Action Store StepFault Style := do
  commit owner style
  let saved ← get
  (Style.ofValue ((saved.value? owner).getD .null)).mapError StepFault.settings

/-- The rows in the order of their owners. -/
def sortedRows (store : Store) : Table Value :=
  store.rows.mergeSort fun first second => decide (first.1 ≤ second.1)

/-! ## Runs -/

/-- A step of work with a store. -/
inductive Step where
  | load (owner : String)
  | save (owner : String) (style : Value)
  | seed (owner : String) (value : Value)
  | refuse (refusing : Bool)

/-- What a step does. -/
def act : Step → Action Store StepFault (Option Style)
  | .load owner => do
      let store ← get
      (store.load owner).mapError StepFault.store
  | .save owner value => do
      let style ← (Style.ofValue value).mapError StepFault.settings
      let stored ← save owner style
      return some stored
  | .seed owner value => do
      modify fun store => store.seed owner value
      return none
  | .refuse refusing => do
      modify fun store => store.refuse refusing
      return none

/-- The result of a step and the store after it. -/
def step (store : Store) (step : Step) : Except StepFault (Option Style) × Store :=
  (act step).on store

end Store
end ChessDrawing
