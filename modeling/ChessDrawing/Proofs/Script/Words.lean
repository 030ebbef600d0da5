import ChessDrawing.Proofs.Script.Source

/-!
# Marks written as words

A mark is well-formed if its names can be told apart in its word.  Well-formed marks are read back
from a line that has their words with spaces between them, among other words that stand for no mark.
Every line is read, and what is read from it is well-formed.
-/

namespace ChessDrawing

/-! ## Pieces without the separator -/

namespace Text

variable {separator : Char} {text piece : List Char}

theorem split_of_not_mem (free : separator ∉ text) : split separator text = [text] := by
  induction text with
  | nil => rfl
  | cons character text ih =>
      obtain ⟨other, later_free⟩ := List.ne_and_not_mem_of_not_mem_cons free
      rw [split, if_neg other.symm, ih later_free, consFirst_cons]

/-- A piece does not have the separator, and its characters are characters of the text. -/
theorem of_mem_split (mem : piece ∈ split separator text) :
    separator ∉ piece ∧ ∀ character ∈ piece, character ∈ text := by
  induction text generalizing piece with
  | nil =>
      obtain rfl : piece = [] := by simpa using mem
      simp
  | cons character text ih =>
      rw [split] at mem
      split at mem
      · rcases List.mem_cons.mp mem with rfl | later
        · simp
        · obtain ⟨free, from_text⟩ := ih later
          exact ⟨free, fun next next_mem => List.mem_cons_of_mem _ (from_text next next_mem)⟩
      · rename_i other
        obtain ⟨first, pieces, split_eq⟩ :=
          List.exists_cons_of_ne_nil (split_ne_nil separator text)
        rw [split_eq] at ih mem
        rw [consFirst_cons, List.mem_cons] at mem
        rcases mem with rfl | later
        · obtain ⟨free, from_text⟩ := ih List.mem_cons_self
          refine ⟨?_, ?_⟩
          · simp [free, Ne.symm other]
          · rw [List.forall_mem_cons]
            exact ⟨List.mem_cons_self,
              fun next next_mem => List.mem_cons_of_mem _ (from_text next next_mem)⟩
        · obtain ⟨free, from_text⟩ := ih (List.mem_cons_of_mem _ later)
          exact ⟨free, fun next next_mem => List.mem_cons_of_mem _ (from_text next next_mem)⟩

theorem words_space (text : List Char) : words (' ' :: text) = words text :=
  words_append_space [] text

theorem not_mem_of_mem_words {word : List Char} (mem : word ∈ words text) : ' ' ∉ word :=
  (of_mem_split (List.mem_of_mem_filter mem)).1

/-- The text before is not continued: there is no more, or a space follows. -/
def Ended (rest : List Char) : Prop :=
  ∀ character ∈ rest.head?, character = ' '

/-- A word without spaces that is not continued is the first word. -/
theorem words_append {word rest : List Char} (free : ' ' ∉ word) (nonempty : word ≠ [])
    (ended : Ended rest) : words (word ++ rest) = word :: words rest := by
  have alone : words word = [word] := by
    simp [words, split_of_not_mem free, nonempty]
  cases rest with
  | nil => rw [List.append_nil, alone, words_nil]
  | cons character rest =>
      obtain rfl : character = ' ' := ended character rfl
      rw [words_append_space, alone, words_space, List.singleton_append]

end Text

namespace Mark

open Text

/-! ## Words of marks -/

/-- No name of the mark has a space, and no name of an arrow has a dash. -/
def WellFormed : Mark → Prop
  | .highlight square => ' ' ∉ square.toList
  | .arrow start finish =>
      (' ' ∉ start.toList ∧ '-' ∉ start.toList) ∧ ' ' ∉ finish.toList ∧ '-' ∉ finish.toList

instance (mark : Mark) : Decidable mark.WellFormed :=
  match mark with
  | .highlight square => inferInstanceAs (Decidable (' ' ∉ square.toList))
  | .arrow _ _ => inferInstanceAs (Decidable (_ ∧ _))

/-- The word has no spaces and neither of the two letters that begin marks. -/
def IsOther (word : List Char) : Prop :=
  ' ' ∉ word ∧ word.head? ≠ some 'H' ∧ word.head? ≠ some 'A'

variable {mark : Mark} {word : List Char}

theorem endpoints_append {start finish : List Char} (start_free : '-' ∉ start)
    (finish_free : '-' ∉ finish) : endpoints (start ++ '-' :: finish) = (start, finish) := by
  rw [endpoints, split_append_separator, split_of_not_mem start_free,
    split_of_not_mem finish_free]
  rfl

/-- The names around dashes are pieces of the text; a missing second name is empty. -/
theorem endpoints_mem_split (text : List Char) :
    (endpoints text).1 ∈ split '-' text ∧
      ((endpoints text).2 ∈ split '-' text ∨ (endpoints text).2 = []) := by
  obtain ⟨start, pieces, split_eq⟩ := List.exists_cons_of_ne_nil (split_ne_nil '-' text)
  rw [endpoints, split_eq]
  cases pieces <;> simp

theorem free_of_mem_split {text piece : List Char} (free : ' ' ∉ text)
    (mem : piece ∈ split '-' text) : ' ' ∉ piece ∧ '-' ∉ piece :=
  ⟨fun space => free ((of_mem_split mem).2 _ space), (of_mem_split mem).1⟩

theorem ofWord?_word (well_formed : mark.WellFormed) : ofWord? mark.word = some mark := by
  cases mark with
  | highlight square => simp [Mark.word, ofWord?]
  | arrow start finish =>
      obtain ⟨⟨-, start_free⟩, -, finish_free⟩ := well_formed
      simp [Mark.word, ofWord?, endpoints_append start_free finish_free]

theorem ofWord?_of_isOther (other : IsOther word) : ofWord? word = none := by
  obtain ⟨-, no_highlight, no_arrow⟩ := other
  rw [ofWord?]
  · rintro square rfl
    exact no_highlight rfl
  · rintro ends rfl
    exact no_arrow rfl

theorem wellFormed_of_ofWord? (free : ' ' ∉ word) (read : ofWord? word = some mark) :
    mark.WellFormed := by
  unfold ofWord? at read
  split at read
  · rename_i square
    obtain rfl := Option.some.inj read
    simpa [WellFormed] using free
  · rename_i ends
    have mark_eq : .arrow (String.ofList (endpoints ends).1) (String.ofList (endpoints ends).2) =
        mark := Option.some.inj read
    have ends_free : ' ' ∉ ends := fun space => free (List.mem_cons_of_mem _ space)
    obtain ⟨start_mem, finish_mem⟩ := endpoints_mem_split ends
    have finish_free : ' ' ∉ (endpoints ends).2 ∧ '-' ∉ (endpoints ends).2 := by
      rcases finish_mem with piece | missing
      · exact free_of_mem_split ends_free piece
      · simp [missing]
    rw [← mark_eq, WellFormed, String.toList_ofList, String.toList_ofList]
    exact ⟨free_of_mem_split ends_free start_mem, finish_free⟩
  · cases read

theorem free_word (well_formed : mark.WellFormed) : ' ' ∉ mark.word := by
  cases mark with
  | highlight square => simpa [Mark.word, WellFormed] using well_formed
  | arrow start finish =>
      obtain ⟨⟨start_free, -⟩, finish_free, -⟩ := well_formed
      simp [Mark.word, start_free, finish_free]

theorem word_ne_nil (mark : Mark) : mark.word ≠ [] := by
  cases mark <;> simp [Mark.word]

/-! ## Lines of words -/

/-- A line has the words of some marks in order, with spaces and other words around them.  Each word
ends at a space or at the end of the line. -/
inductive Line : List Mark → List Char → Prop
  /-- The end of a line. -/
  | nil : Line [] []
  /-- One more space in front. -/
  | space {marks : List Mark} {rest : List Char} (line : Line marks rest) :
      Line marks (' ' :: rest)
  /-- The word of a well-formed mark in front. -/
  | mark {mark : Mark} {marks : List Mark} {rest : List Char} (well_formed : mark.WellFormed)
      (ended : Ended rest) (line : Line marks rest) :
      Line (mark :: marks) (mark.word ++ rest)
  /-- A word in front that stands for no mark. -/
  | other {word : List Char} {marks : List Mark} {rest : List Char} (other : IsOther word)
      (ended : Ended rest) (line : Line marks rest) :
      Line marks (word ++ rest)

/-- A line is read as its marks. -/
theorem Line.ofWords_eq {marks : List Mark} {text : List Char} (line : Line marks text) :
    ofWords text = marks := by
  induction line with
  | nil => rfl
  | space _ ih => rw [ofWords, words_space, ← ofWords, ih]
  | @mark mark marks rest well_formed ended _ ih =>
      rw [ofWords, words_append (free_word well_formed) mark.word_ne_nil ended,
        List.filterMap_cons, ofWord?_word well_formed, ← ofWords, ih]
  | @other word marks rest other ended _ ih =>
      rcases eq_or_ne word [] with rfl | nonempty
      · exact ih
      · rw [ofWords, words_append other.1 nonempty ended, List.filterMap_cons,
          ofWord?_of_isOther other, ← ofWords, ih]

/-- Well-formed marks make up a line with single spaces between their words. -/
theorem line_intercalate {marks : List Mark} (well_formed : ∀ mark ∈ marks, mark.WellFormed) :
    Line marks ([' '].intercalate (marks.map Mark.word)) := by
  induction marks with
  | nil => exact .nil
  | cons mark marks ih =>
      obtain ⟨first, later⟩ := List.forall_mem_cons.mp well_formed
      cases marks with
      | nil => simpa using Line.mark first (by simp [Ended]) .nil
      | cons next marks =>
          rw [List.map_cons, List.map_cons, List.intercalate_cons_cons, List.append_assoc,
            List.singleton_append]
          exact .mark first (by simp [Ended]) (.space (ih later))

/-- What is read from a line is well-formed. -/
theorem wellFormed_of_mem_ofWords {line : List Char} {mark : Mark} (mem : mark ∈ ofWords line) :
    mark.WellFormed := by
  obtain ⟨word, word_mem, read⟩ := List.mem_filterMap.mp mem
  exact wellFormed_of_ofWord? (not_mem_of_mem_words word_mem) read

/-- Marks can be written and read back: every line of the words of well-formed marks, with any
spaces and other words around them, is read as these marks, and well-formed marks always make up
such a line.  Every line is read without a fault, and as well-formed marks.  Two lines with a space
between them are read as the marks of the one followed by those of the other. -/
theorem ofWords_reads_back :
    (∀ marks text, Line marks text → ofWords text = marks) ∧
      (∀ marks : List Mark, (∀ mark ∈ marks, mark.WellFormed) →
        Line marks ([' '].intercalate (marks.map Mark.word))) ∧
      (∀ text : List Char,
        (split ' ' text).foldlM Script.Guarded.addPiece [] = .ok (ofWords text) ∧
          ∀ mark ∈ ofWords text, mark.WellFormed) ∧
      ∀ left right : List Char, ofWords (left ++ ' ' :: right) = ofWords left ++ ofWords right := by
  refine ⟨fun _ _ line => line.ofWords_eq, fun _ => line_intercalate, ?_, ofWords_append_space⟩
  intro text
  exact ⟨Script.Guarded.foldlM_addPiece [] _, fun _ => wellFormed_of_mem_ofWords⟩

/-- A highlight may have dashes, and an arrow may lack its names. -/
theorem ofWords_of_scattered_words :
    ofWords " H-e4- xHe4  A-  ".toList = [.highlight "-e4-", .arrow "" ""] := by
  have written : Line [.highlight "-e4-", .arrow "" ""]
      (' ' :: ((Mark.highlight "-e4-").word ++ ' ' :: (['x', 'H', 'e', '4'] ++ ' ' :: ' ' ::
        ((Mark.arrow "" "").word ++ [' ', ' '])))) := by
    refine .space (.mark (by decide) (by simp [Ended]) (.space (.other ?_ (by simp [Ended]) ?_)))
    · simp [IsOther]
    · exact .space (.space (.mark (by decide) (by simp [Ended]) (.space (.space .nil))))
  have line_eq : (' ' :: ((Mark.highlight "-e4-").word ++ ' ' :: (['x', 'H', 'e', '4'] ++ ' ' ::
      ' ' :: ((Mark.arrow "" "").word ++ [' ', ' '])))) = " H-e4- xHe4  A-  ".toList := by
    decide
  rw [← line_eq]
  exact ofWords_reads_back.1 _ _ written

end Mark
end ChessDrawing
