import Mathlib

/-!
# Results that may be faults

A computation that reads, checks and builds ends in a value or in a fault.  These laws say when a
chain of such computations, one for each item of a list, or one with its value or fault renamed,
ends in which.
-/

namespace ChessDrawing

variable {ε ε' α β : Type}

theorem bind_eq_ok_iff {first : Except ε α} {next : α → Except ε β} {result : β} :
    first >>= next = .ok result ↔ ∃ value, first = .ok value ∧ next value = .ok result := by
  cases first <;> simp [bind, Except.bind]

theorem bind_eq_error_iff {first : Except ε α} {next : α → Except ε β} {fault : ε} :
    first >>= next = .error fault ↔
      first = .error fault ∨ ∃ value, first = .ok value ∧ next value = .error fault := by
  cases first <;> simp [bind, Except.bind]

@[simp]
theorem ok_bind (value : α) (next : α → Except ε β) : Except.ok value >>= next = next value := rfl

@[simp]
theorem map_ok (rename : α → β) (value : α) :
    (Except.ok value : Except ε α).map rename = .ok (rename value) := rfl

@[simp]
theorem map_error (rename : α → β) (fault : ε) :
    (Except.error fault : Except ε α).map rename = .error fault := rfl

@[simp]
theorem mapError_ok (rename : ε → ε') (value : α) :
    (Except.ok value : Except ε α).mapError rename = .ok value := rfl

@[simp]
theorem mapError_error (rename : ε → ε') (fault : ε) :
    (Except.error fault : Except ε α).mapError rename = .error (rename fault) := rfl

theorem map_eq_ok_iff {rename : α → β} {first : Except ε α} {result : β} :
    first.map rename = .ok result ↔ ∃ value, first = .ok value ∧ rename value = result := by
  cases first <;> simp [Except.map]

theorem map_eq_error_iff {rename : α → β} {first : Except ε α} {fault : ε} :
    first.map rename = .error fault ↔ first = .error fault := by
  cases first <;> simp [Except.map]

theorem mapError_eq_ok_iff {rename : ε → ε'} {first : Except ε α} {result : α} :
    first.mapError rename = .ok result ↔ first = .ok result := by
  cases first <;> simp [Except.mapError]

theorem mapError_eq_error_iff {rename : ε → ε'} {first : Except ε α} {fault : ε'} :
    first.mapError rename = .error fault ↔ ∃ cause, first = .error cause ∧ rename cause = fault := by
  cases first <;> simp [Except.mapError]

theorem isOk_iff_exists {result : Except ε α} :
    result.isOk = true ↔ ∃ value, result = .ok value := by
  cases result <;> simp [Except.isOk, Except.toBool]

/-! ## The first bad item -/

/-- The first item of a list that does not have a property. -/
def FirstWithout (good : α → Prop) (items : List α) (item : α) : Prop :=
  ∃ before after, items = before ++ item :: after ∧ (∀ earlier ∈ before, good earlier) ∧ ¬ good item

variable {good : α → Prop} {item : α} {items left right : List α}

theorem not_firstWithout_nil : ¬ FirstWithout good [] item := by
  rintro ⟨before, after, items_eq, -⟩
  simp at items_eq

theorem firstWithout_cons_iff {first : α} :
    FirstWithout good (first :: items) item ↔
      (¬ good first ∧ item = first) ∨ (good first ∧ FirstWithout good items item) := by
  constructor
  · rintro ⟨before, after, items_eq, earlier_good, bad⟩
    cases before with
    | nil =>
        obtain ⟨rfl, rfl⟩ := List.cons.inj items_eq
        exact Or.inl ⟨bad, rfl⟩
    | cons earlier before =>
        obtain ⟨rfl, rfl⟩ := List.cons.inj items_eq
        rw [List.forall_mem_cons] at earlier_good
        exact Or.inr ⟨earlier_good.1, before, after, rfl, earlier_good.2, bad⟩
  · rintro (⟨bad, rfl⟩ | ⟨first_good, before, after, rfl, earlier_good, bad⟩)
    · exact ⟨[], items, rfl, by simp, bad⟩
    · exact ⟨first :: before, after, rfl, List.forall_mem_cons.mpr ⟨first_good, earlier_good⟩, bad⟩

theorem firstWithout_append_iff :
    FirstWithout good (left ++ right) item ↔
      FirstWithout good left item ∨
        ((∀ earlier ∈ left, good earlier) ∧ FirstWithout good right item) := by
  induction left with
  | nil => simp [not_firstWithout_nil]
  | cons first left ih =>
      rw [List.cons_append, firstWithout_cons_iff, firstWithout_cons_iff, ih, List.forall_mem_cons]
      tauto

/-- A list has a first bad item exactly if it has a bad one. -/
theorem exists_firstWithout_iff :
    (∃ item, FirstWithout good items item) ↔ ∃ item ∈ items, ¬ good item := by
  induction items with
  | nil => simp [not_firstWithout_nil]
  | cons first items ih =>
      simp only [firstWithout_cons_iff, exists_or, exists_eq_right, exists_and_left, ih,
        List.exists_mem_cons_iff]
      by_cases first_good : good first <;> simp [first_good]

theorem FirstWithout.unique {other : α} (first : FirstWithout good items item)
    (other_first : FirstWithout good items other) : item = other := by
  induction items with
  | nil => exact absurd first not_firstWithout_nil
  | cons head items ih =>
      rw [firstWithout_cons_iff] at first other_first
      rcases first with ⟨bad, rfl⟩ | ⟨head_good, first⟩
      · rcases other_first with ⟨-, rfl⟩ | ⟨head_good, -⟩
        · rfl
        · exact absurd head_good bad
      · rcases other_first with ⟨bad, -⟩ | ⟨-, other_first⟩
        · exact absurd head_good bad
        · exact ih first other_first

/-! ## One computation for each item -/

theorem mapM_eq_ok_iff {compute : α → Except ε β} {results : List β} :
    items.mapM compute = .ok results ↔
      List.Forall₂ (fun item result => compute item = .ok result) items results := by
  induction items generalizing results with
  | nil => simp [pure, Except.pure, eq_comm]
  | cons item items ih =>
      simp only [List.mapM_cons, bind_eq_ok_iff, ih, pure, Except.pure, Except.ok.injEq,
        List.forall₂_cons_left_iff]
      constructor
      · rintro ⟨result, computed, later, computed_later, rfl⟩
        exact ⟨result, later, computed, computed_later, rfl⟩
      · rintro ⟨result, later, computed, computed_later, rfl⟩
        exact ⟨result, computed, later, computed_later, rfl⟩

/-- A list is computed exactly if each of its items is. -/
theorem exists_mapM_iff {compute : α → Except ε β} :
    (∃ results, items.mapM compute = .ok results) ↔
      ∀ item ∈ items, ∃ result, compute item = .ok result := by
  simp only [mapM_eq_ok_iff]
  induction items with
  | nil => simp
  | cons item items ih =>
      rw [List.forall_mem_cons, ← ih]
      simp only [List.forall₂_cons_left_iff]
      constructor
      · rintro ⟨_, result, later, computed, computed_later, rfl⟩
        exact ⟨⟨result, computed⟩, later, computed_later⟩
      · rintro ⟨⟨result, computed⟩, later, computed_later⟩
        exact ⟨_, result, later, computed, computed_later, rfl⟩

/-- The fault of a list is that of its first item that has one. -/
theorem mapM_eq_error_iff {compute : α → Except ε β} {fault : ε} :
    items.mapM compute = .error fault ↔
      ∃ item, FirstWithout (fun item => ∃ result, compute item = .ok result) items item ∧
        compute item = .error fault := by
  induction items with
  | nil => simp [not_firstWithout_nil, pure, Except.pure]
  | cons first items ih =>
      simp only [List.mapM_cons, bind_eq_error_iff, pure, Except.pure, reduceCtorEq, and_false,
        exists_false, or_false, ih, firstWithout_cons_iff]
      cases computed : compute first with
      | error other => simp [computed]
      | ok result => simp

end ChessDrawing
