import ChessDrawing.Number.Places
import ChessDrawing.Proofs.Number.Arithmetic
import ChessDrawing.Proofs.Script.Words
import ChessDrawing.Proofs.Text.Numeral

/-!
# Plain decimals

A plain decimal has a sign for a negative number, a whole part without superfluous zeros, and at most
two decimals of which the last is not zero.  Its text is read back as its number.  The two places of a
double become a plain decimal when the zeros and the point at their end are cut off.
-/

namespace ChessDrawing
namespace Text

open Binary64

/-- The number that a row of ASCII digits denotes. -/
def digitsValue (digits : List Char) : Nat :=
  positional (digits.map fun digit => digit.toNat - '0'.toNat)

/-- The number that digits with at most one point between them denote. -/
def readUnsigned (text : List Char) : ℚ :=
  match split '.' text with
  | [whole] => digitsValue whole
  | [whole, decimals] => digitsValue whole + digitsValue decimals / 10 ^ decimals.length
  | _ => 0

/-- The number that a decimal text denotes. -/
def readDecimal : List Char → ℚ
  | '-' :: text => -readUnsigned text
  | text => readUnsigned text

/-- A decimal in the fewest characters, with at most two decimals. -/
structure PlainDecimal where
  /-- Whether a minus sign stands in front. -/
  negative : Bool
  /-- The digits before the point. -/
  whole : List Char
  /-- The digits behind the point; without any there is no point. -/
  decimals : List Char
  /-- The whole part is made of digits. -/
  whole_isDigit : ∀ digit ∈ whole, digit.isDigit = true
  /-- The whole part is not left out. -/
  whole_ne_nil : whole ≠ []
  /-- The whole part starts with zero only if it is zero. -/
  no_front_zero : whole.head? = some '0' → whole = ['0']
  /-- The decimals are digits. -/
  decimals_isDigit : ∀ digit ∈ decimals, digit.isDigit = true
  /-- There are at most two decimals. -/
  decimals_short : decimals.length ≤ 2
  /-- The last decimal is not zero. -/
  no_final_zero : decimals.getLast? ≠ some '0'

/-- The text of a plain decimal. -/
def PlainDecimal.text (decimal : PlainDecimal) : List Char :=
  withSign decimal.negative
    (decimal.whole ++ if decimal.decimals.isEmpty then [] else '.' :: decimal.decimals)

theorem not_mem_of_isDigit {character : Char} {digits : List Char}
    (isDigit : ∀ digit ∈ digits, digit.isDigit = true) (no_digit : character.isDigit = false) :
    character ∉ digits := by
  intro mem
  rw [isDigit character mem] at no_digit
  cases no_digit

theorem PlainDecimal.not_mem_text {character : Char} (no_digit : character.isDigit = false)
    (no_point : character ≠ '.') (no_sign : character ≠ '-') (decimal : PlainDecimal) :
    character ∉ decimal.text := by
  have not_whole := not_mem_of_isDigit decimal.whole_isDigit no_digit
  have not_decimal := not_mem_of_isDigit decimal.decimals_isDigit no_digit
  rw [text, withSign]
  split <;> split <;> simp [not_whole, not_decimal, no_point, no_sign]

theorem PlainDecimal.text_ne_nil (decimal : PlainDecimal) : decimal.text ≠ [] := by
  rw [text, withSign]
  split <;> simp [decimal.whole_ne_nil]

theorem readDecimal_withSign {text : List Char} (negative : Bool) (unsigned : '-' ∉ text) :
    readDecimal (withSign negative text) = sign negative * readUnsigned text := by
  cases negative with
  | true => simp [withSign, readDecimal, sign]
  | false =>
      simp only [withSign, Bool.false_eq_true, if_false, sign, one_mul]
      cases text with
      | nil => rfl
      | cons first rest =>
          have first_ne : first ≠ '-' := fun same => unsigned (same ▸ List.mem_cons_self)
          simp [readDecimal, first_ne]

/-- A plain decimal denotes the number that its parts stand for. -/
theorem PlainDecimal.readDecimal_text (decimal : PlainDecimal) :
    readDecimal decimal.text =
      sign decimal.negative * (digitsValue decimal.whole +
        digitsValue decimal.decimals / 10 ^ decimal.decimals.length) := by
  have no_point : '.' ∉ decimal.whole := not_mem_of_isDigit decimal.whole_isDigit rfl
  have no_point' : '.' ∉ decimal.decimals := not_mem_of_isDigit decimal.decimals_isDigit rfl
  have no_sign : '-' ∉ decimal.whole := not_mem_of_isDigit decimal.whole_isDigit rfl
  have no_sign' : '-' ∉ decimal.decimals := not_mem_of_isDigit decimal.decimals_isDigit rfl
  rw [PlainDecimal.text, readDecimal_withSign]
  · rcases none : decimal.decimals with - | ⟨first, rest⟩
    · simp [readUnsigned, split_of_not_mem no_point, digitsValue]
    · rw [none] at no_point'
      simp [readUnsigned, split_append_separator, split_of_not_mem no_point,
        split_of_not_mem no_point']
  · rw [List.mem_append]
    split <;> simp [no_sign, no_sign']

/-! ## Numerals -/

theorem digitsValue_concat (digits : List Char) (last : Char) :
    digitsValue (digits ++ [last]) = 10 * digitsValue digits + (last.toNat - '0'.toNat) := by
  simp [digitsValue, positional_concat]

theorem toNat_digitChar {digit : Nat} (small : digit < 10) :
    (Nat.digitChar digit).toNat - '0'.toNat = digit := by
  have each : ∀ digit < 10, (Nat.digitChar digit).toNat - '0'.toNat = digit := by decide
  exact each digit small

/-- A numeral denotes its number. -/
theorem digitsValue_natural (value : Nat) : digitsValue (natural value) = value := by
  induction value using Nat.strong_induction_on with
  | _ value ih =>
      obtain last | large := Nat.lt_or_ge value 10
      · rw [natural, Nat.toDigits_of_lt_base last]
        simpa [digitsValue, positional] using toNat_digitChar last
      · rw [natural, Nat.toDigits_of_base_le (by omega) large, digitsValue_concat,
          toNat_digitChar (Nat.mod_lt _ (by omega))]
        have front := ih (value / 10) (by omega)
        rw [natural] at front
        rw [front, Nat.div_add_mod]

theorem isDigit_of_mem_natural {digit : Char} {value : Nat} (mem : digit ∈ natural value) :
    digit.isDigit = true :=
  Nat.isDigit_of_mem_toDigits (by decide) (by decide) mem

theorem natural_ne_nil (value : Nat) : natural value ≠ [] :=
  List.ne_nil_of_length_pos Nat.length_toDigits_pos

/-- Only the numeral of zero starts with a zero. -/
theorem natural_eq_of_head? {value : Nat} (zero : (natural value).head? = some '0') :
    natural value = ['0'] := by
  induction value using Nat.strong_induction_on with
  | _ value ih =>
      obtain last | large := Nat.lt_or_ge value 10
      · rw [natural, Nat.toDigits_of_lt_base last] at zero ⊢
        exact congrArg (fun digit => [digit]) (Option.some.inj zero)
      · have step : natural value = natural (value / 10) ++ [Nat.digitChar (value % 10)] :=
          Nat.toDigits_of_base_le (by omega) large
        rw [step, List.head?_append_of_ne_nil _ (natural_ne_nil _)] at zero
        have front_zero : value / 10 = 0 := natural_injective (ih (value / 10) (by omega) zero)
        omega

theorem isDigit_of_mem_padded {digit : Char} {width value : Nat} (mem : digit ∈ padded width value) :
    digit.isDigit = true := by
  obtain zero | digit_mem := List.mem_append.mp mem
  · rw [List.eq_of_mem_replicate zero]
    rfl
  · exact isDigit_of_mem_natural digit_mem

theorem mem_of_mem_withoutFinal {character final : Char} {text : List Char}
    (mem : character ∈ withoutFinal final text) : character ∈ text :=
  (List.rdropWhile_prefix (· == final) text).subset mem

/-- Two digits keep their value without the zeros at their end. -/
theorem decimals_of_hundredths {hundredths : Nat} (small : hundredths < 100) :
    let decimals := withoutFinalZeros (padded 2 hundredths)
    decimals.length ≤ 2 ∧ decimals.getLast? ≠ some '0' ∧
      digitsValue decimals * 100 = hundredths * 10 ^ decimals.length := by
  have each : ∀ hundredths < 100,
      let decimals := withoutFinalZeros (padded 2 hundredths)
      decimals.length ≤ 2 ∧ decimals.getLast? ≠ some '0' ∧
        digitsValue decimals * 100 = hundredths * 10 ^ decimals.length := by
    decide +kernel
  exact each hundredths small

/-- The plain decimal of a sign and a count of hundredths. -/
def PlainDecimal.ofCount (negative : Bool) (count : Nat) : PlainDecimal where
  negative
  whole := natural (count / 100)
  decimals := withoutFinalZeros (padded 2 (count % 100))
  whole_isDigit _ := isDigit_of_mem_natural
  whole_ne_nil := natural_ne_nil _
  no_front_zero := natural_eq_of_head?
  decimals_isDigit _ mem := isDigit_of_mem_padded (mem_of_mem_withoutFinal mem)
  decimals_short := (decimals_of_hundredths (Nat.mod_lt _ (by decide))).1
  no_final_zero := (decimals_of_hundredths (Nat.mod_lt _ (by decide))).2.1

theorem readDecimal_ofCount (negative : Bool) (count : Nat) :
    readDecimal (PlainDecimal.ofCount negative count).text = sign negative * (count / 100) := by
  obtain ⟨-, -, decimals_eq⟩ := decimals_of_hundredths (Nat.mod_lt count (by decide : 0 < 100))
  have decimals_eq' : (digitsValue (withoutFinalZeros (padded 2 (count % 100))) : ℚ) /
      10 ^ (withoutFinalZeros (padded 2 (count % 100))).length = (count % 100 : Nat) / 100 := by
    rw [div_eq_div_iff (by positivity) (by positivity)]
    exact_mod_cast decimals_eq
  have parts_eq : (100 : ℚ) * (count / 100 : Nat) + (count % 100 : Nat) = count := by
    exact_mod_cast Nat.div_add_mod count 100
  rw [PlainDecimal.readDecimal_text]
  simp only [PlainDecimal.ofCount, digitsValue_natural]
  rw [decimals_eq', ← parts_eq]
  ring

/-- The plain decimal of a number of hundredths. -/
def PlainDecimal.ofHundredths (hundredths : ℤ) : PlainDecimal :=
  .ofCount (hundredths < 0) hundredths.natAbs

theorem readDecimal_ofHundredths (hundredths : ℤ) :
    readDecimal (PlainDecimal.ofHundredths hundredths).text = hundredths / 100 := by
  rw [PlainDecimal.ofHundredths, readDecimal_ofCount, ← mul_div_assoc, sign_mul_natAbs]

/-! ## Cutting the end of a text -/

theorem withoutFinal_append_cons {final kept : Char} (different : kept ≠ final)
    (left right : List Char) :
    withoutFinal final (left ++ kept :: right) = left ++ kept :: withoutFinal final right := by
  simp only [withoutFinal, List.reverse_append, List.reverse_cons, List.append_assoc,
    List.singleton_append, List.dropWhile_append]
  split
  · rename_i cut
    simp [List.isEmpty_iff.mp cut, different]
  · simp

theorem withoutFinal_eq_self {final : Char} {text : List Char} (absent : final ∉ text) :
    withoutFinal final text = text := by
  apply List.rdropWhile_eq_self_iff.mpr
  intro nonempty ends
  apply absent
  rw [← beq_iff_eq.mp ends]
  exact List.getLast_mem nonempty

/-- A point is cut off exactly if there is nothing behind it. -/
theorem withoutFinal_point {whole decimals : List Char} (no_point : '.' ∉ whole)
    (no_point' : '.' ∉ decimals) :
    withoutFinal '.' (whole ++ '.' :: decimals) =
      whole ++ if decimals.isEmpty then [] else '.' :: decimals := by
  cases decimals with
  | nil =>
      have cut : withoutFinal '.' (whole ++ ['.']) = withoutFinal '.' whole :=
        List.rdropWhile_concat_pos (· == '.') whole '.' rfl
      rw [cut, withoutFinal_eq_self no_point]
      exact (List.append_nil whole).symm
  | cons first rest =>
      simp only [List.mem_cons, not_or] at no_point'
      obtain ⟨first_ne, rest_ne⟩ := no_point'
      rw [List.append_cons, withoutFinal_append_cons (Ne.symm first_ne),
        withoutFinal_eq_self rest_ne, ← List.append_cons]
      rfl

end Text

/-! ## Two places -/

namespace Binary64

open Text

theorem withSign_append (negative : Bool) (left right : List Char) :
    withSign negative (left ++ right) = withSign negative left ++ right := by
  cases negative <;> rfl

/-- Two places are cut down to a plain decimal. -/
theorem withoutFinal_fixedPlaces (negative : Bool) (units : Nat) :
    withoutFinal '.' (withoutFinal '0' (withSign negative (fixedPlaces 2 units))) =
      (PlainDecimal.ofCount negative (steps 2 units)).text := by
  have no_point : '.' ∉ withSign negative (natural (steps 2 units / 100)) := by
    cases negative <;> simp [withSign, not_mem_natural]
  have no_point' : '.' ∉ withoutFinalZeros (padded 2 (steps 2 units % 100)) := by
    intro mem
    cases isDigit_of_mem_padded (mem_of_mem_withoutFinal mem)
  rw [fixedPlaces, withSign_append, withoutFinal_append_cons (by decide), PlainDecimal.text,
    withSign_append]
  exact withoutFinal_point no_point no_point'

end Binary64
end ChessDrawing
