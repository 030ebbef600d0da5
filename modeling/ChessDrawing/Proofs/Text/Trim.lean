import ChessDrawing.Text.Blank
import Mathlib

/-!
# Trimmed texts

Trimming drops the selected characters at both ends, so that nothing is left exactly of the texts of
selected characters, and exactly the texts with other characters at both ends are left as they are.
-/

namespace ChessDrawing
namespace Text

theorem trimBy_eq_rdropWhile (selected : Char → Bool) (text : List Char) :
    trimBy selected text = (text.dropWhile selected).rdropWhile selected := rfl

theorem trim_eq_nil_iff {text : List Char} :
    trim text = [] ↔ ∀ character ∈ text, isBlank character := by
  rw [trim, trimBy_eq_rdropWhile, List.rdropWhile_eq_nil_iff]
  constructor
  · intro dropped
    rw [← List.dropWhile_eq_nil_iff]
    by_contra nonempty
    have first := List.head_dropWhile_not isBlank nonempty
    rw [dropped _ (List.head_mem nonempty)] at first
    cases first
  · intro blank character mem
    exact blank character ((List.dropWhile_suffix isBlank).mem mem)

theorem trimBy_trimBy (selected : Char → Bool) (text : List Char) :
    trimBy selected (trimBy selected text) = trimBy selected text := by
  have no_front : (trimBy selected text).dropWhile selected = trimBy selected text := by
    rw [trimBy_eq_rdropWhile]
    obtain ⟨dropped, front⟩ := List.rdropWhile_prefix selected (text.dropWhile selected)
    cases kept : (text.dropWhile selected).rdropWhile selected with
    | nil => rfl
    | cons first rest =>
        rw [kept, List.cons_append] at front
        have nonempty : text.dropWhile selected ≠ [] := by simp [← front]
        have first_not := List.head_dropWhile_not selected nonempty
        simp only [← front, List.head_cons] at first_not
        simp [first_not]
  rw [trimBy_eq_rdropWhile selected (trimBy selected text), no_front, trimBy_eq_rdropWhile,
    List.rdropWhile_idempotent]

/-- A text is left as it is exactly if neither its first nor its last character is selected. -/
theorem trimBy_eq_self_iff {selected : Char → Bool} {text : List Char} :
    trimBy selected text = text ↔
      (∀ first ∈ text.head?, selected first = false) ∧
        ∀ last ∈ text.getLast?, selected last = false := by
  have front_iff : text.dropWhile selected = text ↔
      ∀ first ∈ text.head?, selected first = false := by
    cases text with
    | nil => simp
    | cons first rest => simp [List.dropWhile_eq_self_iff]
  have back_iff : text.rdropWhile selected = text ↔
      ∀ last ∈ text.getLast?, selected last = false := by
    rcases List.eq_nil_or_concat text with rfl | ⟨front, last, rfl⟩
    · simp
    · simp [List.rdropWhile_eq_self_iff]
  rw [trimBy_eq_rdropWhile, ← front_iff, ← back_iff]
  constructor
  · intro kept
    -- Nothing is longer than what is left of it at both ends, so that nothing is dropped in front.
    have kept_length : text.length ≤ (text.dropWhile selected).length := by
      have back_length := (List.rdropWhile_prefix selected (text.dropWhile selected)).length_le
      rwa [kept] at back_length
    have front := (List.dropWhile_suffix selected).eq_of_length_le kept_length
    exact ⟨front, by rwa [front] at kept⟩
  · rintro ⟨front, back⟩
    rw [front, back]

theorem trimmed_trimmed (text : String) : trimmed (trimmed text) = trimmed text := by
  rw [trimmed, toList_trimmed, trim, trim, trimBy_trimBy]
  rfl

end Text
end ChessDrawing
