import ChessDrawing.Proofs.Script.Meaning

/-!
# Line breaks

Lines may be held apart by line feeds or by pairs of a carriage return and a line feed, in any
mixture.  The text has the same lines for every choice of breaks, provided that no line brings a
line feed of its own or a carriage return that would join the break after it.  Only line feeds make
lines, so that no other character splits a line, and a break after the last line adds a line without
effect.
-/

namespace ChessDrawing
namespace Text

/-- What stands between two lines. -/
inductive Break where
  /-- A line feed. -/
  | feed
  /-- A carriage return and a line feed. -/
  | returnFeed
  deriving DecidableEq

/-- The characters of a break. -/
def Break.text : Break → List Char
  | .feed => ['\n']
  | .returnFeed => ['\r', '\n']

/-- The text of some lines with the chosen break before each line but the first. -/
def joined (first : List Char) : List (Break × List Char) → List Char
  | [] => first
  | (lineBreak, line) :: later => first ++ (lineBreak.text ++ joined line later)

/-- The lines can be told apart in a text: none has a line feed, and none but the last ends in a
carriage return. -/
structure Separable (lines : List (List Char)) : Prop where
  /-- No line has a line feed. -/
  unbroken : ∀ line ∈ lines, '\n' ∉ line
  /-- No line that a break follows ends in a carriage return. -/
  no_return : ∀ line ∈ lines.dropLast, line.getLast? ≠ some '\r'

theorem Separable.first {first next : List Char} {later : List (List Char)}
    (separable : Separable (first :: next :: later)) :
    '\n' ∉ first ∧ first.getLast? ≠ some '\r' :=
  ⟨separable.unbroken first List.mem_cons_self,
    separable.no_return first (by rw [List.dropLast_cons_cons]; exact List.mem_cons_self)⟩

theorem Separable.later {first next : List Char} {later : List (List Char)}
    (separable : Separable (first :: next :: later)) : Separable (next :: later) where
  unbroken line mem := separable.unbroken line (List.mem_cons_of_mem _ mem)
  no_return line mem :=
    separable.no_return line (by rw [List.dropLast_cons_cons]; exact List.mem_cons_of_mem _ mem)

/-- A break after a line begins the lines of the text behind it. -/
theorem Lined.cons {line text : List Char} {later : List (List Char)} (unbroken : '\n' ∉ line)
    (no_return : line.getLast? ≠ some '\r') (rest : Lined later text) (lineBreak : Break) :
    Lined (line :: later) (line ++ (lineBreak.text ++ text)) := by
  cases lineBreak with
  | feed => exact .feed unbroken no_return rest
  | returnFeed => exact .returnFeed unbroken rest

/-- Lines that can be told apart are the lines of their text, whatever the breaks are. -/
theorem lined_joined {first : List Char} {later : List (Break × List Char)}
    (separable : Separable (first :: later.map Prod.snd)) :
    Lined (first :: later.map Prod.snd) (joined first later) := by
  induction later generalizing first with
  | nil => exact .last (separable.unbroken first List.mem_cons_self)
  | cons entry later ih =>
      obtain ⟨lineBreak, line⟩ := entry
      obtain ⟨unbroken, no_return⟩ := separable.first
      exact (ih separable.later).cons unbroken no_return lineBreak

theorem joined_feed (first : List Char) (later : List (List Char)) :
    joined first (later.map fun line => (.feed, line)) = ['\n'].intercalate (first :: later) := by
  induction later generalizing first with
  | nil => simp [joined]
  | cons line later ih =>
      rw [List.map_cons, joined, ih, List.intercalate_cons_cons, List.append_assoc]
      rfl

theorem lined_intercalate {first : List Char} {later : List (List Char)}
    (separable : Separable (first :: later)) :
    Lined (first :: later) (['\n'].intercalate (first :: later)) := by
  have lines_eq : (later.map fun line => (Break.feed, line)).map Prod.snd = later := by
    simp [List.map_map, Function.comp_def]
  rw [← lines_eq] at separable
  have lined := lined_joined separable
  rwa [lines_eq, joined_feed] at lined

/-- A text has one line more than line feeds. -/
theorem length_lines (text : List Char) : (lines text).length = text.count '\n' + 1 := by
  fun_induction lines text with
  | case1 => rfl
  | case2 rest ih => simp [ih]
  | case3 rest ih => simp [ih]
  | case4 character rest no_break not_feed ih =>
      obtain ⟨first, later, lines_eq⟩ := exists_lines_eq_cons rest
      have other : character ≠ '\n' := fun same => not_feed same
      rw [lines_eq] at ih
      rw [lines_eq, consFirst_cons, List.count_cons_of_ne other, ← ih]
      rfl

/-- A break after a text adds an empty line, unless the text ends within the break. -/
theorem Lined.concat {pieces : List (List Char)} {text : List Char} (lined : Lined pieces text)
    (no_return : text.getLast? ≠ some '\r') (lineBreak : Break) :
    Lined (pieces ++ [[]]) (text ++ lineBreak.text) := by
  induction lined with
  | last unbroken =>
      have empty : Lined [[]] [] := .last List.not_mem_nil
      simpa using empty.cons unbroken no_return lineBreak
  | @feed line text later unbroken line_no_return rest ih =>
      rw [List.cons_append, List.append_assoc, List.cons_append]
      refine .feed unbroken line_no_return (ih ?_)
      intro last
      exact no_return (by simp [List.getLast?_cons, last])
  | @returnFeed line text later unbroken rest ih =>
      rw [List.cons_append, List.append_assoc, List.cons_append, List.cons_append]
      refine .returnFeed unbroken (ih ?_)
      intro last
      exact no_return (by simp [List.getLast?_cons, last])

end Text

namespace Script

open Text

theorem ofSource_of_lined {pieces : List (List Char)} {source : String}
    (lined : Lined pieces source.toList) : ofSource source = ofLines pieces := by
  rw [ofSource, lined_iff.mp lined]

/-- An empty line at the end has no effect. -/
theorem ofLines_concat_nil (first : List Char) (later : List (List Char)) :
    ofLines (first :: (later ++ [[]])) = ofLines (first :: later) := by
  have no_orientation : ¬ orientationMarker <+: [] := by decide
  have no_annotations : ¬ annotationsMarker <+: [] := by decide
  simp only [ofLines_cons, rests_append, rests_cons_unmarked no_orientation,
    rests_cons_unmarked no_annotations, rests_nil, List.append_nil]

/-- Line breaks do not matter: lines that can be told apart are the lines of their text for every
choice of breaks, and the text is read, or refused with the same fault, as exactly these lines are,
and so as the text with line feeds between them.  Every text has one line more than line feeds, so that nothing else splits a line.
A break after a source that does not end in a carriage return changes nothing. -/
theorem ofSource_of_any_breaks :
    (∀ (first : List Char) (later : List (Break × List Char)),
        Separable (first :: later.map Prod.snd) →
          lines (joined first later) = first :: later.map Prod.snd ∧
            ofSource (String.ofList (joined first later)) = ofLines (first :: later.map Prod.snd) ∧
            ofSource (String.ofList (joined first later)) =
              ofSource (String.ofList (['\n'].intercalate (first :: later.map Prod.snd)))) ∧
      (∀ text : List Char, (lines text).length = text.count '\n' + 1) ∧
      ∀ (source : String) (lineBreak : Break), source.toList.getLast? ≠ some '\r' →
        ofSource (source ++ String.ofList lineBreak.text) = ofSource source := by
  refine ⟨?_, length_lines, ?_⟩
  · intro first later separable
    have lined := lined_joined separable
    have fed := lined_intercalate separable
    have read : ofSource (String.ofList (joined first later)) =
        ofLines (first :: later.map Prod.snd) :=
      ofSource_of_lined (by simpa using lined)
    refine ⟨lined_iff.mp lined, read, ?_⟩
    rw [read, ofSource_of_lined (by simpa using fed)]
  · intro source lineBreak no_return
    obtain ⟨first, later, lines_eq⟩ := exists_lines_eq_cons source.toList
    have lined : Lined (first :: later) source.toList := lined_iff.mpr lines_eq
    have longer := lined.concat no_return lineBreak
    rw [ofSource_of_lined lined, ← ofLines_concat_nil]
    apply ofSource_of_lined
    simpa using longer

/-- Both breaks in one source, carriage returns and a line separator inside lines, a carriage return
at the end, and a break after another source. -/
theorem ofSource_of_mixed_breaks :
    ofSource "8\r8\r\norientation: black\nannotations: Ha1\u2028 \rHb2\r\nHc3\r" =
        ofSource "8\r8\norientation: black\nannotations: Ha1\u2028 \rHb2\nHc3\r" ∧
      ofSource "8\norientation: pink\r\n" = ofSource "8\norientation: pink" := by
  have separable : Separable ["8\r8".toList, "orientation: black".toList,
      "annotations: Ha1\u2028 \rHb2".toList, "Hc3\r".toList] :=
    ⟨by decide, by decide⟩
  refine ⟨?_, ?_⟩
  · exact (ofSource_of_any_breaks.1 "8\r8".toList
      [ (.returnFeed, "orientation: black".toList),
        (.feed, "annotations: Ha1\u2028 \rHb2".toList),
        (.returnFeed, "Hc3\r".toList) ] separable).2.2
  · exact ofSource_of_any_breaks.2.2 "8\norientation: pink" .returnFeed (by decide)

end Script
end ChessDrawing
