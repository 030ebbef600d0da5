import ChessDrawing.Proofs.Settings.Style
import ChessDrawing.Settings.Store

/-!
# Saving and loading

A valid style that was saved is loaded again, and it is the style that the save gives back.  Writing
comes before reading back, so that a save can fail after the row is written; it does so only where
the row agreed with the style before, and there the write changes nothing.
-/

namespace ChessDrawing
namespace Store

variable {store : Store} {owner other : String} {value : Value} {style : Style}

/-! ## Rows -/

theorem holds_eq_true_iff :
    store.holds owner value = true ↔
      ∃ row, store.value? owner = some row ∧ value.agrees row = true := by
  rw [holds, Option.any_eq_true]

theorem seed_of_holds (agrees : store.holds owner value = true) : store.seed owner value = store :=
  if_pos agrees

theorem value?_seed_self (differs : store.holds owner value = false) :
    (store.seed owner value).value? owner = some (rowForm value) := by
  rw [seed, if_neg (by simp [differs]), value?]
  exact Table.lookup_put_self owner (rowForm value) store.rows

/-- Writing the row of one owner leaves the rows of the others. -/
theorem value?_seed_of_ne (different : other ≠ owner) :
    (store.seed owner value).value? other = store.value? other := by
  unfold seed
  split
  · rfl
  · exact Table.lookup_put_of_ne different (rowForm value) store.rows

theorem refusing_seed (store : Store) (owner : String) (value : Value) :
    (store.seed owner value).refusing = store.refusing := by
  unfold seed
  split <;> rfl

/-! ## Loading -/

/-- Loading depends on the row of the owner only. -/
theorem load_congr {first second : Store} (same_row : first.value? owner = second.value? owner) :
    first.load owner = second.load owner := by
  rw [load, load, same_row]

theorem load_of_value? (row_at : store.value? owner = some value)
    (read : Style.ofValue value = .ok style) : store.load owner = .ok (some style) := by
  simp only [load, row_at, read]

/-- Every style that is loaded is valid. -/
theorem valid_of_load (loaded : store.load owner = .ok (some style)) : style.Valid := by
  unfold load at loaded
  split at loaded
  · cases loaded
  · rename_i row row_at
    split at loaded
    · rename_i read_style read
      obtain rfl := Option.some.inj (Except.ok.inj loaded)
      exact Style.valid_of_ofValue read
    · cases loaded

/-! ## Saving -/

/-- A row that was written with a style, or agreed with it, reads as that style or not at all. -/
theorem eq_of_row_read (valid : style.Valid) {row : Value} {stored : Style}
    (row_at : (store.seed owner style.toValue).value? owner = some row)
    (read : Style.ofValue row = .ok stored) : stored = style := by
  cases holds : store.holds owner style.toValue with
  | true =>
      rw [seed_of_holds holds] at row_at
      obtain ⟨held, held_at, agrees⟩ := holds_eq_true_iff.mp holds
      obtain rfl := Option.some.inj (row_at.symm.trans held_at)
      exact Style.eq_of_agrees valid agrees read
  | false =>
      rw [value?_seed_self holds] at row_at
      obtain rfl := Option.some.inj row_at
      exact Except.ok.inj (read.symm.trans (Style.ofValue_toValue valid))

theorem exists_row_of_seed (store : Store) (owner : String) (value : Value) :
    ∃ row, (store.seed owner value).value? owner = some row := by
  cases holds : store.holds owner value with
  | true =>
      obtain ⟨row, row_at, -⟩ := holds_eq_true_iff.mp holds
      exact ⟨row, by rw [seed_of_holds holds, row_at]⟩
  | false => exact ⟨_, value?_seed_self holds⟩

theorem on_save_of_refused (refused : (store.refusing && !store.holds owner style.toValue) = true) :
    (save owner style).on store = (.error (.store (.refused owner)), store) := by
  simp only [save, commit, Action.on_bind, Action.on_get, refused, if_true, Action.on_throw]

/-- A save that is not refused writes the row, whatever is then read from it. -/
theorem on_save_of_accepted
    (accepted : (store.refusing && !store.holds owner style.toValue) = false) :
    (save owner style).on store =
      ((Style.ofValue (((store.seed owner style.toValue).value? owner).getD .null)).mapError
        .settings, store.seed owner style.toValue) := by
  simp only [save, commit, Action.on_bind, Action.on_get, accepted, Bool.false_eq_true, if_false,
    Action.on_set, Action.on_liftM]

theorem save_eq_ok_iff {stored : Style} {saved : Store} :
    (save owner style).on store = (.ok stored, saved) ↔
      (store.refusing && !store.holds owner style.toValue) = false ∧
        saved = store.seed owner style.toValue ∧
          Style.ofValue ((saved.value? owner).getD .null) = .ok stored := by
  cases refused : store.refusing && !store.holds owner style.toValue with
  | true => simp [on_save_of_refused refused]
  | false =>
      rw [on_save_of_accepted refused, Prod.mk.injEq, mapError_eq_ok_iff]
      constructor
      · rintro ⟨read, rfl⟩
        exact ⟨rfl, rfl, read⟩
      · rintro ⟨-, rfl, read⟩
        exact ⟨read, rfl⟩

/-- A saved style is given back, and it is what the store then loads. -/
theorem load_of_save (valid : style.Valid) {stored : Style} {saved : Store}
    (saved_eq : (save owner style).on store = (.ok stored, saved)) :
    stored = style ∧ saved.load owner = .ok (some style) := by
  obtain ⟨-, rfl, read⟩ := save_eq_ok_iff.mp saved_eq
  obtain ⟨row, row_at⟩ := exists_row_of_seed store owner style.toValue
  rw [row_at, Option.getD_some] at read
  obtain rfl := eq_of_row_read valid row_at read
  exact ⟨rfl, load_of_value? row_at read⟩

/-- A save that fails leaves the store as it was: a row that is written reads as the style. -/
theorem save_of_error (valid : style.Valid) {fault : StepFault}
    (failed : ((save owner style).on store).1 = .error fault) :
    ((save owner style).on store).2 = store := by
  cases refused : store.refusing && !store.holds owner style.toValue with
  | true => rw [on_save_of_refused refused]
  | false =>
      rw [on_save_of_accepted refused] at failed ⊢
      apply seed_of_holds
      by_contra differs
      rw [Bool.not_eq_true] at differs
      have read : Style.ofValue (rowForm style.toValue) = .ok style := Style.ofValue_toValue valid
      rw [value?_seed_self differs, Option.getD_some, read] at failed
      cases failed

/-- A row that was written with a style agrees with it from then on. -/
theorem holds_seed_toValue (store : Store) (owner : String) (style : Style) :
    (store.seed owner style.toValue).holds owner style.toValue = true := by
  cases holds : store.holds owner style.toValue with
  | true => rwa [seed_of_holds holds]
  | false => exact holds_eq_true_iff.mpr ⟨_, value?_seed_self holds, Style.agrees_toValue style⟩

/-! ## Reading back -/

/-- Each valid style that the row of an owner agrees with is read back from the row. -/
def ReadsBack (store : Store) (owner : String) : Prop :=
  ∀ style row, style.Valid → store.value? owner = some row → style.toValue.agrees row = true →
    Style.ofValue row = .ok style

/-- A valid style is saved exactly if the row does not agree with it without reading as it. -/
theorem save_eq_ok_iff_of_valid (valid : style.Valid) (accepting : store.refusing = false) :
    (save owner style).on store = (.ok style, store.seed owner style.toValue) ↔
      ∀ row, store.value? owner = some row → style.toValue.agrees row = true →
        Style.ofValue row = .ok style := by
  have accepted : (store.refusing && !store.holds owner style.toValue) = false := by
    rw [accepting, Bool.false_and]
  rw [save_eq_ok_iff, and_iff_right accepted, and_iff_right rfl]
  cases holds : store.holds owner style.toValue with
  | true =>
      obtain ⟨row, row_at, agree⟩ := holds_eq_true_iff.mp holds
      rw [seed_of_holds holds, row_at, Option.getD_some]
      constructor
      · rintro read other other_at -
        rwa [← Option.some.inj other_at]
      · intro reads
        exact reads row rfl agree
  | false =>
      rw [value?_seed_self holds, Option.getD_some]
      constructor
      · rintro - row row_at agree
        rw [holds_eq_true_iff.mpr ⟨row, row_at, agree⟩] at holds
        cases holds
      · rintro -
        exact Style.ofValue_toValue valid

/-- A row that loads is read back. -/
theorem readsBack_of_load {stored : Option Style} (loaded : store.load owner = .ok stored) :
    store.ReadsBack owner := by
  intro style row valid row_at agree
  simp only [load, row_at] at loaded
  split at loaded
  · rename_i read_style read
    rw [read, Style.eq_of_agrees valid agree read]
  · cases loaded

end Store
end ChessDrawing
