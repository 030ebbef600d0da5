import ChessDrawing.Text.Numeral
import Mathlib

/-!
# Decimal digits of all scripts

The digits of a script are ten consecutive characters, and no character is a digit of two scripts.
A row of digits, of one script or of several, denotes the number that their values have by position,
and reading finds exactly the numbers that are denoted.
-/

namespace ChessDrawing
namespace Text

variable {character : Char} {text : List Char}

/-- The character stands the given number of places behind the zero of a script. -/
def IsDigitOf (character : Char) (value : Nat) : Prop :=
  value < 10 ∧ ∃ first ∈ zeroDigits, character.toNat = first + value

/-- The text has digits only, at least one, and the number is their value by position. -/
def Denotes (text : List Char) (number : Nat) : Prop :=
  text ≠ [] ∧ ∃ values, List.Forall₂ IsDigitOf text values ∧ Nat.ofDigits 10 values.reverse = number

/-- The digits of two scripts have no character in common. -/
theorem eq_of_overlap {left right : Nat} (left_mem : left ∈ zeroDigits)
    (right_mem : right ∈ zeroDigits) (below : right < left + 10) (above : left < right + 10) :
    left = right := by
  have disjoint : ∀ left ∈ zeroDigits, ∀ right ∈ zeroDigits,
      right < left + 10 → left < right + 10 → left = right := by
    decide +kernel
  exact disjoint left left_mem right right_mem below above

theorem IsDigitOf.unique {value value' : Nat} (digit : IsDigitOf character value)
    (digit' : IsDigitOf character value') : value = value' := by
  obtain ⟨small, first, first_mem, code_eq⟩ := digit
  obtain ⟨small', first', first_mem', code_eq'⟩ := digit'
  have same := eq_of_overlap first_mem first_mem' (by omega) (by omega)
  omega

theorem digitValue?_eq_some_iff {value : Nat} :
    digitValue? character = some value ↔ IsDigitOf character value := by
  have isDigitOf_of_found {value : Nat} (found : digitValue? character = some value) :
      IsDigitOf character value := by
    obtain ⟨first, first_mem, in_range⟩ := List.exists_of_findSome?_eq_some found
    simp only [Option.ite_none_right_eq_some, Option.some.injEq] at in_range
    exact ⟨by omega, first, first_mem, by omega⟩
  refine ⟨isDigitOf_of_found, fun digit => ?_⟩
  cases found : digitValue? character with
  | some other => rw [(isDigitOf_of_found found).unique digit]
  | none =>
      obtain ⟨small, first, first_mem, code_eq⟩ := digit
      have missed := List.findSome?_eq_none_iff.mp found first first_mem
      rw [if_pos (by omega)] at missed
      cases missed

theorem mapM_digitValue?_eq_some_iff {values : List Nat} :
    text.mapM digitValue? = some values ↔ List.Forall₂ IsDigitOf text values := by
  induction text generalizing values with
  | nil => simp [eq_comm]
  | cons first rest ih =>
      simp only [List.mapM_cons, Option.bind_eq_bind, Option.bind_eq_some_iff, Option.pure_def,
        Option.some.injEq, digitValue?_eq_some_iff, ih, List.forall₂_cons_left_iff]
      constructor
      · rintro ⟨value, digit, later, later_digits, rfl⟩
        exact ⟨value, later, digit, later_digits, rfl⟩
      · rintro ⟨value, later, digit, later_digits, rfl⟩
        exact ⟨value, digit, later, later_digits, rfl⟩

theorem positional_eq_ofDigits (values : List Nat) :
    positional values = Nat.ofDigits 10 values.reverse := by
  induction values using List.reverseRecOn with
  | nil => rfl
  | append_singleton front last ih =>
      rw [positional_concat, ih, List.reverse_concat, Nat.ofDigits_cons, Nat.add_comm]

/-- A number is read exactly from the texts that denote it. -/
theorem readNatural?_eq_some_iff {number : Nat} :
    readNatural? text = some number ↔ Denotes text number := by
  simp only [readNatural?, Option.ite_none_left_eq_some, List.isEmpty_iff, Option.map_eq_some_iff,
    mapM_digitValue?_eq_some_iff, positional_eq_ofDigits, Denotes, ne_eq]

theorem Denotes.unique {number number' : Nat} (denotes : Denotes text number)
    (denotes' : Denotes text number') : number = number' := by
  rw [← readNatural?_eq_some_iff] at denotes denotes'
  exact Option.some.inj (denotes.symm.trans denotes')

end Text
end ChessDrawing
