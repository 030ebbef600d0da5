import ChessDrawing.Text.Split
import Mathlib

/-!
# Pieces and lines of a text

Cutting at a separator is the library's `List.splitOn`.  `Lined` says when a list of lines makes up
a text: the lines hold no line feed, neighbours have a line feed with at most one carriage return
between them, and a carriage return before a line feed always belongs to the break.  Each text has
exactly one such list, which is `lines`.
-/

namespace ChessDrawing
namespace Text

theorem consFirst_eq_modifyHead (character : Char) {pieces : List (List Char)}
    (nonempty : pieces ≠ []) :
    consFirst character pieces = pieces.modifyHead (character :: ·) := by
  obtain ⟨piece, rest, rfl⟩ := List.exists_cons_of_ne_nil nonempty
  rfl

theorem split_eq_splitOn (separator : Char) (text : List Char) :
    split separator text = text.splitOn separator := by
  induction text with
  | nil => rfl
  | cons character text ih =>
      rw [split, List.splitOn_cons_eq_if_modifyHead, ih]
      by_cases same : character = separator
      · simp [same]
      · simp [same, consFirst_eq_modifyHead]

/-! ## Lines -/

theorem lines_ne_nil (text : List Char) : lines text ≠ [] := by
  fun_cases lines text <;> simp [consFirst_ne_nil]

/-- Every text has a first line. -/
theorem exists_lines_eq_cons (text : List Char) : ∃ first later, lines text = first :: later :=
  List.exists_cons_of_ne_nil (lines_ne_nil text)

/-- The lines that make up a text with the line breaks between them. -/
inductive Lined : List (List Char) → List Char → Prop
  /-- The last line has no break after it. -/
  | last {line : List Char} (unbroken : '\n' ∉ line) : Lined [line] line
  /-- A line feed is the whole break where no carriage return stands before it. -/
  | feed {line text : List Char} {later : List (List Char)} (unbroken : '\n' ∉ line)
      (no_return : line.getLast? ≠ some '\r') (rest : Lined later text) :
      Lined (line :: later) (line ++ '\n' :: text)
  /-- A carriage return and a line feed are one break. -/
  | returnFeed {line text : List Char} {later : List (List Char)} (unbroken : '\n' ∉ line)
      (rest : Lined later text) :
      Lined (line :: later) (line ++ '\r' :: '\n' :: text)

/-- A character joins the first line unless it begins a break. -/
theorem lines_cons {character : Char} {text : List Char} (not_feed : character ≠ '\n')
    (no_break : character = '\r' → text.head? ≠ some '\n') :
    lines (character :: text) = consFirst character (lines text) := by
  rw [lines]
  · rintro rest rfl rfl
    exact no_break rfl rfl
  · exact fun equal => not_feed equal

/-- Characters without a line feed join the first line of the rest, unless a break lies across. -/
theorem lines_append {line rest : List Char} (unbroken : '\n' ∉ line)
    (no_break : line.getLast? = some '\r' → rest.head? ≠ some '\n') :
    lines (line ++ rest) = (lines rest).modifyHead (line ++ ·) := by
  induction line with
  | nil =>
      obtain ⟨first, later, lines_eq⟩ := exists_lines_eq_cons rest
      simp [lines_eq]
  | cons character line ih =>
      simp only [List.mem_cons, not_or] at unbroken
      have later : lines (line ++ rest) = (lines rest).modifyHead (line ++ ·) := by
        apply ih unbroken.2
        intro last
        apply no_break
        simp [List.getLast?_cons, last]
      rw [List.cons_append, lines_cons (Ne.symm unbroken.1), later]
      · obtain ⟨first, others, lines_eq⟩ := exists_lines_eq_cons rest
        simp [lines_eq]
      · rintro rfl
        cases line with
        | nil => exact no_break rfl
        | cons next line =>
            intro feed
            exact unbroken.2 (by simp_all)

/-- A character that begins no break makes the first line longer. -/
theorem Lined.consFirst {character : Char} {pieces : List (List Char)} {text : List Char}
    (lined : Lined pieces text) (not_feed : character ≠ '\n')
    (no_break : character = '\r' → text.head? ≠ some '\n') :
    Lined (Text.consFirst character pieces) (character :: text) := by
  cases lined with
  | last unbroken => exact .last (by simp [Ne.symm not_feed, unbroken])
  | @feed line text later unbroken no_return rest =>
      change Lined ((character :: line) :: later) ((character :: line) ++ '\n' :: text)
      refine .feed (by simp [Ne.symm not_feed, unbroken]) ?_ rest
      cases line with
      | nil =>
          intro last
          exact no_break (by simpa using last) rfl
      | cons next line => simpa [List.getLast?_cons] using no_return
  | returnFeed unbroken rest =>
      exact .returnFeed (by simp [Ne.symm not_feed, unbroken]) rest

/-- The lines of a text are the one list that makes it up. -/
theorem lined_iff {pieces : List (List Char)} {text : List Char} :
    Lined pieces text ↔ lines text = pieces := by
  constructor
  · intro lined
    induction lined with
    | @last line unbroken =>
        have joined : lines (line ++ []) = (lines []).modifyHead (line ++ ·) :=
          lines_append unbroken (by simp)
        simpa [lines] using joined
    | @feed line text later unbroken no_return rest ih =>
        rw [lines_append unbroken fun last => absurd last no_return]
        simp [lines, ih]
    | @returnFeed line text later unbroken rest ih =>
        rw [lines_append unbroken (by simp)]
        simp [lines, ih]
  · rintro rfl
    fun_induction lines text with
    | case1 => exact .last (by simp)
    | case2 rest ih =>
        change Lined ([] :: lines rest) ([] ++ '\r' :: '\n' :: rest)
        exact .returnFeed (by simp) ih
    | case3 rest ih =>
        change Lined ([] :: lines rest) ([] ++ '\n' :: rest)
        exact .feed (by simp) (by simp) ih
    | case4 character rest no_break not_feed ih =>
        apply ih.consFirst
        · rintro rfl
          exact not_feed rfl
        · rintro rfl next
          obtain ⟨following, rfl⟩ := List.head?_eq_some_iff.mp next
          exact no_break following rfl rfl

end Text
end ChessDrawing
