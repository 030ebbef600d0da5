import ChessDrawing.Text.Numeral
import ChessDrawing.Text.Quoted
import Mathlib

/-!
# Numerals and code points

A numeral denotes one number only, in every base whose digits are characters, and so does an integer
with its sign.  A numeral has no letters, so that the text of a code point, which is a character or an
escape, can be told apart from the numeral that follows it.
-/

namespace ChessDrawing
namespace Text

variable {character : Char}

/-! ## Digits -/

theorem eq_of_digitChar_eq {left right : Nat} (left_small : left < 16) (right_small : right < 16)
    (same : Nat.digitChar left = Nat.digitChar right) : left = right := by
  have each : ∀ left < 16, ∀ right < 16,
      Nat.digitChar left = Nat.digitChar right → left = right := by
    decide
  exact each left left_small right right_small same

/-- Numbers with the same digits are the same. -/
theorem toDigits_injective {base : Nat} (two_le : 2 ≤ base) (le_sixteen : base ≤ 16) :
    Function.Injective (Nat.toDigits base) := by
  intro left
  induction left using Nat.strong_induction_on with
  | _ left ih =>
      intro right same
      have mod_small (number : Nat) : number % base < 16 :=
        (Nat.mod_lt number (by omega)).trans_le le_sixteen
      have no_front (digit last : Char) (number : Nat) :
          [digit] ≠ Nat.toDigits base number ++ [last] := by
        simp [List.singleton_eq_append_iff]
      rw [Nat.toDigits_eq_if (n := left) two_le, Nat.toDigits_eq_if (n := right) two_le] at same
      split_ifs at same with left_small right_small right_small
      · exact eq_of_digitChar_eq (by omega) (by omega) (List.singleton_inj.mp same)
      · exact absurd same (no_front _ _ _)
      · exact absurd same.symm (no_front _ _ _)
      · obtain ⟨front, last⟩ := List.append_inj' same rfl
        have quotients := ih _ (Nat.div_lt_self (by omega) two_le) front
        have remainders :=
          eq_of_digitChar_eq (mod_small left) (mod_small right) (List.singleton_inj.mp last)
        rw [← Nat.div_add_mod left base, quotients, remainders, Nat.div_add_mod]

/-! ## Integers -/

theorem not_mem_natural (no_digit : character.isDigit = false) (value : Nat) :
    character ∉ natural value := by
  intro mem
  rw [Nat.isDigit_of_mem_toDigits (by decide) (by decide) mem] at no_digit
  cases no_digit

theorem natural_injective : Function.Injective natural :=
  toDigits_injective (by decide) (by decide)

theorem integer_injective : Function.Injective integer := by
  have no_sign (value before : Nat) : natural value ≠ '-' :: natural (before + 1) := by
    intro same
    have sign_mem : '-' ∈ natural value := by
      rw [same]
      exact List.mem_cons_self
    exact not_mem_natural (by decide) value sign_mem
  intro left right same
  cases left with
  | ofNat value =>
      cases right with
      | ofNat value' => exact congrArg Int.ofNat (natural_injective same)
      | negSucc before' => exact absurd same (no_sign value before')
  | negSucc before =>
      cases right with
      | ofNat value' => exact absurd same.symm (no_sign value' before)
      | negSucc before' =>
          have numbers := natural_injective (List.cons.inj same).2
          rw [Nat.succ.inj numbers]

theorem not_mem_integer (no_digit : character.isDigit = false) (no_sign : character ≠ '-')
    (value : Int) : character ∉ integer value := by
  cases value with
  | ofNat value => exact not_mem_natural no_digit value
  | negSucc before => simp [integer, no_sign, not_mem_natural no_digit]

/-! ## Code points -/

/-- An escape of a code point that no character has, up to its end. -/
theorem escapeCode_eq_of_invalid {code : Nat} (in_range : code < 0x110000)
    (invalid : ¬ code.isValidChar) :
    escapeCode code = '\x5c' :: 'u' :: Nat.toDigits 16 code ∧ (Nat.toDigits 16 code).length = 4 := by
  have surrogate : 0xd800 ≤ code ∧ code ≤ 0xdfff := by
    unfold Nat.isValidChar at invalid
    omega
  have low : ¬ (Nat.toDigits 16 code).length ≤ 3 := by
    rw [Nat.length_toDigits_le_iff (by decide) (by decide)]
    omega
  have high : (Nat.toDigits 16 code).length ≤ 4 := by
    rw [Nat.length_toDigits_le_iff (by decide) (by decide)]
    omega
  have length_eq : (Nat.toDigits 16 code).length = 4 := by omega
  refine ⟨?_, length_eq⟩
  rw [escapeCode, if_neg (by omega), if_pos (by omega), hexadecimal, length_eq]
  rfl

/-- A code point and a numeral behind it can be read off their text. -/
theorem codePoint_append_integer_inj {code code' : Nat} {value value' : Int}
    (in_range : code < 0x110000) (in_range' : code' < 0x110000)
    (same : codePoint code ++ integer value = codePoint code' ++ integer value') :
    code = code' ∧ value = value' := by
  have no_letter (value : Int) (rest : List Char) : integer value ≠ 'u' :: rest := by
    intro same
    have letter_mem : 'u' ∈ integer value := by
      rw [same]
      exact List.mem_cons_self
    exact not_mem_integer (by decide) (by decide) value letter_mem
  unfold codePoint at same
  split_ifs at same with valid valid' valid'
  · obtain ⟨characters, numerals⟩ := List.cons.inj same
    have codes := congrArg Char.toNat characters
    exact ⟨by simpa [Char.toNat_ofNatAux] using codes, integer_injective numerals⟩
  · rw [(escapeCode_eq_of_invalid in_range' valid').1] at same
    exact absurd (List.cons.inj same).2 (no_letter value _)
  · rw [(escapeCode_eq_of_invalid in_range valid).1] at same
    exact absurd (List.cons.inj same).2.symm (no_letter value' _)
  · obtain ⟨escape_eq, length_eq⟩ := escapeCode_eq_of_invalid in_range valid
    obtain ⟨escape_eq', length_eq'⟩ := escapeCode_eq_of_invalid in_range' valid'
    rw [escape_eq, escape_eq'] at same
    obtain ⟨digits, numerals⟩ :=
      List.append_inj (List.cons.inj (List.cons.inj same).2).2 (length_eq.trans length_eq'.symm)
    exact ⟨toDigits_injective (by decide) (by decide) digits, integer_injective numerals⟩

end Text
end ChessDrawing
