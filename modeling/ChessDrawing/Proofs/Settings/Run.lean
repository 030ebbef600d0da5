import ChessDrawing.Proofs.Number.WordDecimal
import ChessDrawing.Proofs.Run
import ChessDrawing.Proofs.Settings.Store

/-!
# Runs of the settings store

A run takes steps one after the other from the empty store.  The store refines a map from owners to
values: an owner loads what the value that was written last for this owner reads as, however the
steps for other owners stand between.  A row differs from the value that was written only where a
lone number went through its decimal, and such a row reads as the value does.  A seed that the row
already agrees with writes nothing, so that the value of the seed need not be the one that is read.
-/

namespace ChessDrawing

/-! ## Rows read as their values -/

namespace Binary64

theorem integer_eq_zero_iff {number : Binary64} {whole : Int}
    (is_integer : number.integer? = some whole) : whole = 0 ↔ number.isZero = true := by
  cases number with
  | finite negative units =>
      have scale_ne : (unitsPerOne : Int) ≠ 0 :=
        Int.natCast_ne_zero_iff_pos.mpr unitsPerOne_pos
      have size_eq := signed_of_integer? is_integer
      have zero_iff : signed negative units = 0 ↔ units = 0 := by
        cases negative <;> simp [signed]
      rw [size_eq, Int.mul_eq_zero, or_iff_left scale_ne] at zero_iff
      rw [zero_iff, isZero, beq_iff_eq]
  | _ => cases is_integer

end Binary64

namespace Store

theorem isVoid_rowNumber (number : Binary64) : (rowNumber number).isVoid = number.isZero := by
  unfold rowNumber
  split
  · rename_i whole is_integer
    split
    · rw [Value.isVoid, Bool.eq_iff_iff, beq_iff_eq]
      exact Binary64.integer_eq_zero_iff is_integer
    · rfl
  · rfl

theorem fields?_rowNumber (number : Binary64) : (rowNumber number).fields? = none := by
  unfold rowNumber
  split
  · split <;> rfl
  · rfl

/-- A row says nothing exactly if its value does, since no number is read as zero but zero. -/
theorem isVoid_rowForm (value : Value) : (rowForm value).isVoid = value.isVoid := by
  cases value with
  | integer whole =>
      rw [rowForm]
      split
      · rfl
      · rename_i outside
        have nonzero : whole ≠ 0 := by
          rintro rfl
          exact outside (by decide)
        rw [isVoid_rowNumber, WordDecimal.isZero_toBinary64_ofInt nonzero]
        exact (beq_false_of_ne nonzero).symm
  | real number =>
      cases number with
      | finite negative units =>
          rw [rowForm, isVoid_rowNumber, WordDecimal.isZero_toBinary64_ofUnits]
          rfl
      | _ => rfl
  | _ => rfl

theorem fields?_rowForm (value : Value) : (rowForm value).fields? = value.fields? := by
  cases value with
  | integer whole =>
      rw [rowForm]
      split
      · rfl
      · exact fields?_rowNumber _
  | real number =>
      cases number with
      | finite negative units => exact fields?_rowNumber _
      | _ => rfl
  | _ => rfl

/-- A row reads as the value that was written. -/
theorem ofValue_rowForm (value : Value) : Style.ofValue (rowForm value) = Style.ofValue value := by
  rw [Style.ofValue, Style.ofValue, isVoid_rowForm, fields?_rowForm]

variable {store : Store} {owner other : String} {value : Value} {style : Style}

/-! ## Runs -/

/-- The store after some steps. -/
abbrev run (store : Store) (steps : List Step) : Store :=
  runSteps (fun store step => (store.step step).2) store steps

/-- The steps of a run, each with its result. -/
abbrev answers (store : Store) (steps : List Step) :
    List (Step × Except StepFault (Option Style)) :=
  answerSteps Store.step store steps

/-- The owner whose row a step is to write. -/
def Step.target? : Step → Option String
  | .save owner _ | .seed owner _ => some owner
  | .load _ | .refuse _ => none

/-- The value that a step writes for an owner.  A save that succeeds writes the form of its style; a
seed writes its value, unless the row already agrees with it. -/
def written? (store : Store) (owner : String) : Step → Option Value
  | .save other value =>
      match (store.step (.save other value)).1 with
      | .ok (some style) => if other = owner then some style.toValue else none
      | _ => none
  | .seed other value =>
      if other = owner ∧ store.holds owner value = false then some value else none
  | .load _ | .refuse _ => none

/-- The values that a run writes for an owner, in their order. -/
def history (store : Store) (owner : String) : List Step → List Value
  | [] => []
  | step :: steps => (store.written? owner step).toList ++ (store.step step).2.history owner steps

/-- What an owner loads from a map that has a value for the owner or none. -/
def loaded (owner : String) : Option Value → Except StoreFault (Option Style)
  | none => .ok none
  | some value =>
      match Style.ofValue value with
      | .ok style => .ok (some style)
      | .error _ => .error (.invalid owner (rowForm value))

/-! ## Steps -/

theorem step_seed (store : Store) (owner : String) (value : Value) :
    store.step (.seed owner value) = (.ok none, store.seed owner value) := rfl

theorem step_save (store : Store) (owner : String) (accepted : Style.ofValue value = .ok style) :
    store.step (.save owner value) =
      (((save owner style).on store).1.map some, ((save owner style).on store).2) := by
  simp [step, act, accepted]

/-- A save fails and changes nothing, or its style is stored and loaded. -/
theorem step_save_cases (store : Store) (owner : String) (value : Value) :
    (∃ fault, store.step (.save owner value) = (.error fault, store)) ∨
      ∃ style, style.Valid ∧ Style.ofValue value = .ok style ∧
        store.step (.save owner value) =
          (.ok (some style), store.seed owner style.toValue) ∧
        (store.seed owner style.toValue).load owner = .ok (some style) := by
  cases accepted : Style.ofValue value with
  | error faults =>
      refine Or.inl ⟨.settings faults, ?_⟩
      simp [step, act, accepted]
  | ok style =>
      have valid := Style.valid_of_ofValue accepted
      rw [step_save store owner accepted]
      cases saved : (save owner style).on store with
      | mk result next =>
          cases result with
          | error fault =>
              have unchanged := save_of_error valid (congrArg Prod.fst saved)
              rw [saved] at unchanged
              exact Or.inl ⟨fault, by rw [unchanged]; rfl⟩
          | ok stored =>
              obtain ⟨rfl, load_eq⟩ := load_of_save valid saved
              obtain ⟨-, rfl, -⟩ := save_eq_ok_iff.mp saved
              exact Or.inr ⟨stored, valid, rfl, rfl, load_eq⟩

/-- A step writes no row, or the row of its owner. -/
theorem step_rows_cases (store : Store) (step : Step) :
    (store.step step).2.rows = store.rows ∨
      ∃ owner value, step.target? = some owner ∧ (store.step step).2 = store.seed owner value := by
  cases step with
  | load owner => exact Or.inl rfl
  | refuse refusing => exact Or.inl rfl
  | seed owner value => exact Or.inr ⟨owner, value, rfl, rfl⟩
  | save owner value =>
      obtain ⟨fault, failed⟩ | ⟨style, -, -, saved, -⟩ := step_save_cases store owner value
      · exact Or.inl (by rw [failed])
      · exact Or.inr ⟨owner, style.toValue, rfl, by rw [saved]⟩

/-- The row of an owner is written only by steps for this owner. -/
theorem value?_step_of_ne {step : Step} (different : step.target? ≠ some other) :
    (store.step step).2.value? other = store.value? other := by
  obtain same | ⟨owner, value, target, seeded⟩ := step_rows_cases store step
  · rw [value?, same, value?]
  · rw [seeded]
    apply value?_seed_of_ne
    rintro rfl
    exact different target

/-- A row stays unwritten exactly if no step for its owner succeeds. -/
theorem value?_step_eq_none_iff (store : Store) (owner : String) (step : Step) :
    (store.step step).2.value? owner = none ↔
      store.value? owner = none ∧
        (step.target? = some owner → ∃ fault, (store.step step).1 = .error fault) := by
  by_cases target : step.target? = some owner
  · cases step with
    | load other => cases target
    | refuse refusing => cases target
    | seed other value =>
        obtain rfl := Option.some.inj target
        obtain ⟨row, row_at⟩ := exists_row_of_seed store other value
        simp [step_seed, row_at, Step.target?]
    | save other value =>
        obtain rfl := Option.some.inj target
        obtain ⟨fault, failed⟩ | ⟨style, -, -, saved, -⟩ := step_save_cases store other value
        · simp [failed]
        · obtain ⟨row, row_at⟩ := exists_row_of_seed store other style.toValue
          simp [saved, row_at, Step.target?]
  · rw [value?_step_of_ne target]
    simp [target]

theorem load_eq_ok_none_iff : store.load owner = .ok none ↔ store.value? owner = none := by
  unfold load
  cases store.value? owner with
  | none => simp
  | some row => cases read : Style.ofValue row <;> simp [read]

theorem load_seed_self (differs : store.holds owner value = false) :
    (store.seed owner value).load owner = loaded owner (some value) := by
  rw [load, value?_seed_self differs, loaded]
  cases read : Style.ofValue value with
  | ok style => simp only [ofValue_rowForm, read]
  | error faults => simp only [ofValue_rowForm, read]

theorem loaded_toValue (valid : style.Valid) :
    loaded owner (some style.toValue) = .ok (some style) := by
  rw [loaded, Style.ofValue_toValue valid]

/-- A step makes an owner load the value that it writes for the owner, and what was loaded before if
it writes none. -/
theorem load_step (store : Store) (owner : String) (step : Step) :
    (store.step step).2.load owner =
      (store.written? owner step).elim (store.load owner) fun value =>
        loaded owner (some value) := by
  cases step with
  | load other => rfl
  | refuse refusing => rfl
  | seed other value =>
      rw [written?]
      split
      · rename_i writes
        obtain ⟨rfl, differs⟩ := writes
        exact load_seed_self differs
      · rename_i keeps
        apply load_congr
        rw [step_seed]
        by_cases same : other = owner
        · subst same
          rw [seed_of_holds (by simpa using keeps)]
        · exact value?_seed_of_ne (Ne.symm same)
  | save other value =>
      obtain ⟨fault, failed⟩ | ⟨style, valid, -, saved, load_eq⟩ := step_save_cases store other value
      · rw [written?, failed]
        rfl
      · rw [written?, saved]
        by_cases same : other = owner
        · subst same
          simp only [if_true, Option.elim_some]
          rw [load_eq, loaded_toValue valid]
        · simp only [same, if_false, Option.elim_none]
          exact load_congr (value?_seed_of_ne (Ne.symm same))

/-! ## Whole runs -/

theorem nodup_run (steps : List Step) (unique : (store.rows.map Prod.fst).Nodup) :
    ((store.run steps).rows.map Prod.fst).Nodup := by
  apply @runSteps_keeps _ _ _ store fun store => (store.rows.map Prod.fst).Nodup
  · exact unique
  · intro step _ store unique
    obtain same | ⟨owner, value, -, seeded⟩ := step_rows_cases store step
    · rwa [same]
    · rw [seeded, seed]
      split
      · exact unique
      · rw [Table.keys_put]
        split
        · exact unique
        · rename_i new
          rw [← List.concat_eq_append]
          exact unique.concat new

theorem value?_run_eq_none_iff (store : Store) (owner : String) (steps : List Step) :
    (store.run steps).value? owner = none ↔
      store.value? owner = none ∧
        ∀ answer ∈ store.answers steps, answer.1.target? = some owner →
          ∃ fault, answer.2 = .error fault := by
  induction steps generalizing store with
  | nil => simp
  | cons step steps ih =>
      change ((store.step step).2.run steps).value? owner = none ↔ _
      rw [ih, value?_step_eq_none_iff, and_assoc]
      simp only [answers, answerSteps_cons, List.forall_mem_cons]

/-- After a run an owner loads the value that was written last, and what was loaded before if none
was written. -/
theorem load_run (store : Store) (owner : String) (steps : List Step) :
    (store.run steps).load owner =
      (store.history owner steps).getLast?.elim (store.load owner) fun value =>
        loaded owner (some value) := by
  induction steps generalizing store with
  | nil => rfl
  | cons step steps ih =>
      change ((store.step step).2.run steps).load owner = _
      rw [ih, history, List.getLast?_append, load_step]
      cases ((store.step step).2.history owner steps).getLast? with
      | some value => rfl
      | none => cases store.written? owner step <;> rfl

theorem load_run_empty (owner : String) (steps : List Step) :
    (empty.run steps).load owner = loaded owner (empty.history owner steps).getLast? := by
  rw [load_run]
  cases (empty.history owner steps).getLast? <;> rfl

/-- A save that succeeds gives its style back, and the owner loads this style until a value is
written for the owner again. -/
theorem load_run_of_save {after : List Step}
    (saved : (store.step (.save owner value)).1 = .ok (some style))
    (unwritten : (store.step (.save owner value)).2.history owner after = []) :
    Style.ofValue value = .ok style ∧
      ((store.step (.save owner value)).2.run after).load owner = .ok (some style) := by
  rw [load_run, unwritten]
  obtain ⟨fault, failed⟩ | ⟨stored, -, accepted, stepped, load_eq⟩ :=
    step_save_cases store owner value
  · rw [failed] at saved
    cases saved
  · rw [stepped] at saved ⊢
    obtain rfl := Option.some.inj (Except.ok.inj saved)
    exact ⟨accepted, load_eq⟩

theorem step_save_of_error {fault : StepFault}
    (failed : (store.step (.save owner value)).1 = .error fault) :
    (store.step (.save owner value)).2 = store := by
  obtain ⟨other, unchanged⟩ | ⟨style, -, -, saved, -⟩ := step_save_cases store owner value
  · rw [unchanged]
  · rw [saved] at failed
    cases failed

/-- After every run from the empty store no owner has two rows, and each loads what the value that
was written last for this owner reads as; nothing is loaded exactly as long as each save and seed
for the owner has failed.  A style that was saved is loaded until a value is written for its owner
again.  A save that fails writes nothing, so that the run goes on as without it.  A seed that the
row agrees with changes nothing.  A step changes the row of its own owner only, and a load none. -/
theorem run_loads_last_written (steps : List Step) :
    let store := empty.run steps
    (store.rows.map Prod.fst).Nodup ∧
      (∀ owner, store.load owner = loaded owner (empty.history owner steps).getLast?) ∧
      (∀ owner, store.load owner = .ok none ↔
        ∀ answer ∈ empty.answers steps, answer.1.target? = some owner →
          ∃ fault, answer.2 = .error fault) ∧
      (∀ before owner value after, steps = before ++ .save owner value :: after →
        let saved := (empty.run before).step (.save owner value)
        (∀ style, saved.1 = .ok (some style) → saved.2.history owner after = [] →
          Style.ofValue value = .ok style ∧ store.load owner = .ok (some style)) ∧
        ∀ fault, saved.1 = .error fault → store = empty.run (before ++ after)) ∧
      (∀ owner style fault, style.Valid → ((save owner style).on store).1 = .error fault →
        ((save owner style).on store).2 = store) ∧
      (∀ owner value, store.holds owner value = true →
        (store.step (.seed owner value)).2 = store) ∧
      (∀ step other, step.target? ≠ some other →
        (store.step step).2.value? other = store.value? other) ∧
      ∀ owner, (store.step (.load owner)).2 = store := by
  intro store
  refine ⟨nodup_run steps List.nodup_nil, fun owner => load_run_empty owner steps, ?_, ?_,
    fun _ _ _ valid failed => save_of_error valid failed, fun _ _ => seed_of_holds,
    fun _ _ => value?_step_of_ne, fun _ => rfl⟩
  · intro owner
    have unwritten_before : empty.value? owner = none := rfl
    rw [load_eq_ok_none_iff, value?_run_eq_none_iff, and_iff_right unwritten_before]
  · rintro before owner value after rfl
    intro saved
    simp only [store, runSteps_append, runSteps_cons]
    exact ⟨fun style => load_run_of_save,
      fun fault failed => by rw [step_save_of_error failed]⟩

/-- A bad value is written over by a style, which is not changed by a bad value of another owner. -/
theorem loads_of_mixed_run :
    let steps : List Step :=
      [.seed "a" (.text "blue"), .save "b" (.object [("boardWidthPx", .integer 480)]),
        .refuse true, .save "a" (.object []), .refuse false,
        .save "a" (.object [("whiteSquareColor", .text " red ")]), .load "c",
        .seed "b" (.bool true)]
    let store := empty.run steps
    store.load "a" = .ok (some { Style.default with light := "red" }) ∧
      store.load "b" = .error (.invalid "b" (.bool true)) ∧ store.load "c" = .ok none := by
  intro steps store
  obtain ⟨-, loads, unwritten, -, -⟩ := run_loads_last_written steps
  refine ⟨?_, ?_, ?_⟩
  · rw [loads]
    rfl
  · rw [loads]
    rfl
  · rw [unwritten]
    simp [steps, Step.target?]

/-- A double of the size of a stored integer that no longer fits a word is not written by a seed,
although it does not read as the style that is then loaded. -/
theorem not_every_seed_is_loaded :
    ¬ ∀ (steps : List Step) (owner : String) (value : Value) (style : Style),
      (empty.run (steps ++ [.seed owner value])).load owner = .ok (some style) ↔
        Style.ofValue value = .ok style := by
  intro loaded_last
  have unread : Style.ofValue (.object
      [("boardWidthPx", .real (.finite false (10000000000000000000 * Binary64.unitsPerOne)))]) ≠
        .ok { Style.default with width := 10000000000000000000 } := by
    decide +kernel
  apply unread
  rw [← loaded_last
    [.seed "chessboard" (.object [("boardWidthPx", .integer 10000000000000000000)])] "chessboard"]
  have held : (empty.run
      [.seed "chessboard" (.object [("boardWidthPx", .integer 10000000000000000000)])]).holds
        "chessboard" (.object
          [("boardWidthPx",
            .real (.finite false (10000000000000000000 * Binary64.unitsPerOne)))]) = true := by
    decide +kernel
  rw [run, runSteps_append, runSteps_cons, runSteps_nil, step_seed, seed_of_holds held,
    load_run_empty]
  rfl

end Store
end ChessDrawing
