import ChessDrawing.Drawing.Element
import Mathlib

/-!
# Unique reading of markup

The written form of an element can be read back in one way only, whatever follows it.  Names end at
the first symbol that no name has, values end at the first quotation mark, since escaping leaves
none inside, and the children of an element end where an end tag begins.
-/

namespace ChessDrawing
namespace Element

/-! ## Names -/

/-- A symbol that a tag or an attribute name may have, such as a letter, a digit, a dash or a colon:
any but the four that stand behind names. -/
def isNameSymbol (symbol : Char) : Bool :=
  symbol != ' ' && symbol != '=' && symbol != '>' && symbol != '/'

/-- A text of such symbols. -/
def isName (text : String) : Bool :=
  text.toList.all isNameSymbol

/-- The text does not continue a name. -/
def EndsName (text : List Char) : Prop :=
  ∃ stop rest, text = stop :: rest ∧ isNameSymbol stop = false

/-- A name is read up to the first symbol that no name has. -/
theorem name_append_inj {name name' : String} {rest rest' : List Char} (named : isName name)
    (named' : isName name') (ends : EndsName rest) (ends' : EndsName rest')
    (same : name.toList ++ rest = name'.toList ++ rest') : name = name' ∧ rest = rest' := by
  obtain ⟨stop, after, rfl, stops⟩ := ends
  obtain ⟨stop', after', rfl, stops'⟩ := ends'
  have symbols : ∀ symbol ∈ name.toList, isNameSymbol symbol := List.all_eq_true.mp named
  have symbols' : ∀ symbol ∈ name'.toList, isNameSymbol symbol := List.all_eq_true.mp named'
  have names := congrArg (List.takeWhile isNameSymbol) same
  rw [List.takeWhile_append_of_pos symbols, List.takeWhile_append_of_pos symbols',
    List.takeWhile_cons_of_neg (by simp [stops]), List.takeWhile_cons_of_neg (by simp [stops']),
    List.append_nil, List.append_nil] at names
  have names_eq : name = name' := String.toList_inj.mp names
  subst names_eq
  exact ⟨rfl, List.append_cancel_left same⟩

/-- A name that no slash follows does not begin with a slash. -/
theorem name_append_ne_slash {name : String} (named : isName name) {stop : Char}
    (no_slash : stop ≠ '/') (rest after : List Char) :
    name.toList ++ stop :: rest ≠ '/' :: after := by
  intro same
  cases symbols : name.toList with
  | nil =>
      rw [symbols, List.nil_append, List.cons.injEq] at same
      exact no_slash same.1
  | cons symbol name =>
      rw [isName, symbols, List.all_cons, Bool.and_eq_true] at named
      rw [symbols, List.cons_append, List.cons.injEq] at same
      have no_symbol : isNameSymbol '/' = false := by decide
      rw [← same.1, named.1] at no_symbol
      cases no_symbol

/-! ## Values -/

/-- The first character of an escaped text and what follows it. -/
def readEscaped : List Char → Option (Char × List Char)
  | '&' :: 'a' :: 'm' :: 'p' :: ';' :: rest => some ('&', rest)
  | '&' :: 'l' :: 't' :: ';' :: rest => some ('<', rest)
  | '&' :: 'g' :: 't' :: ';' :: rest => some ('>', rest)
  | '&' :: 'q' :: 'u' :: 'o' :: 't' :: ';' :: rest => some ('\x22', rest)
  | '&' :: '#' :: '1' :: '3' :: ';' :: rest => some ('\r', rest)
  | '&' :: '#' :: '1' :: '0' :: ';' :: rest => some ('\n', rest)
  | '&' :: '#' :: '0' :: '9' :: ';' :: rest => some ('\t', rest)
  | character :: rest => some (character, rest)
  | [] => none

theorem readEscaped_escape (character : Char) (rest : List Char) :
    readEscaped (escape character ++ rest) = some (character, rest) := by
  unfold escape
  split_ifs with amp lt gt quote cr lf tab
  · simp [amp, readEscaped]
  · simp [lt, readEscaped]
  · simp [gt, readEscaped]
  · simp [quote, readEscaped]
  · simp [cr, readEscaped]
  · simp [lf, readEscaped]
  · simp [tab, readEscaped]
  · simp [readEscaped, amp]

theorem escape_append_inj {character character' : Char} {rest rest' : List Char}
    (same : escape character ++ rest = escape character' ++ rest') :
    character = character' ∧ rest = rest' := by
  have read := readEscaped_escape character rest
  rw [same, readEscaped_escape, Option.some.injEq, Prod.mk.injEq] at read
  exact ⟨read.1.symm, read.2.symm⟩

/-- No escaped character begins with the mark that ends a value. -/
theorem escape_append_ne_quote (character : Char) (rest rest' : List Char) :
    escape character ++ rest ≠ '\x22' :: rest' := by
  unfold escape
  split_ifs with amp lt gt quote cr lf tab <;> simp
  exact fun same => absurd same quote

/-- A value is read up to the first quotation mark. -/
theorem value_append_inj {value value' rest rest' : List Char}
    (same : value.flatMap escape ++ '\x22' :: rest = value'.flatMap escape ++ '\x22' :: rest') :
    value = value' ∧ rest = rest' := by
  induction value generalizing value' with
  | nil =>
      cases value' with
      | nil => exact ⟨rfl, (List.cons.inj same).2⟩
      | cons character value' =>
          rw [List.flatMap_cons, List.append_assoc] at same
          exact absurd same.symm (escape_append_ne_quote _ _ _)
  | cons character value ih =>
      cases value' with
      | nil =>
          rw [List.flatMap_cons, List.append_assoc] at same
          exact absurd same (escape_append_ne_quote _ _ _)
      | cons character' value' =>
          rw [List.flatMap_cons, List.flatMap_cons, List.append_assoc, List.append_assoc] at same
          obtain ⟨rfl, same_rest⟩ := escape_append_inj same
          obtain ⟨rfl, rfl⟩ := ih same_rest
          exact ⟨rfl, rfl⟩

/-! ## Attributes -/

/-- The text ends a list of attributes. -/
def EndsAttributes (text : List Char) : Prop :=
  (∃ rest, text = ' ' :: '/' :: rest) ∨ ∃ rest, text = '>' :: rest

/-- The names of some attributes are names. -/
def areNamed (attributes : List (String × String)) : Bool :=
  attributes.all fun entry => isName entry.1

theorem attributeText_append (name value : String) (rest : List Char) :
    attributeText (name, value) ++ rest =
      ' ' :: (name.toList ++ '=' :: '\x22' :: (value.toList.flatMap escape ++ '\x22' :: rest)) := by
  simp [attributeText]

/-- What ends a list of attributes does not begin another attribute. -/
theorem attributeText_append_not_ends {name value : String} (named : isName name)
    (rest : List Char) : ¬ EndsAttributes (attributeText (name, value) ++ rest) := by
  rw [attributeText_append]
  rintro (⟨after, same⟩ | ⟨after, same⟩)
  · exact name_append_ne_slash named (by decide) _ _ (List.cons.inj same).2
  · simp at same

/-- A list of attributes is read up to the end of the tag. -/
theorem attributes_append_inj {attributes attributes' : List (String × String)}
    {rest rest' : List Char} (named : areNamed attributes) (named' : areNamed attributes')
    (ends : EndsAttributes rest) (ends' : EndsAttributes rest')
    (same : attributes.flatMap attributeText ++ rest =
      attributes'.flatMap attributeText ++ rest') : attributes = attributes' ∧ rest = rest' := by
  induction attributes generalizing attributes' with
  | nil =>
      cases attributes' with
      | nil => exact ⟨rfl, same⟩
      | cons entry attributes' =>
          rw [areNamed, List.all_cons, Bool.and_eq_true] at named'
          rw [List.flatMap_nil, List.nil_append, List.flatMap_cons, List.append_assoc] at same
          exact absurd (same ▸ ends) (attributeText_append_not_ends named'.1 _)
  | cons entry attributes ih =>
      rw [areNamed, List.all_cons, Bool.and_eq_true] at named
      rw [List.flatMap_cons, List.append_assoc] at same
      cases attributes' with
      | nil =>
          rw [List.flatMap_nil, List.nil_append] at same
          exact absurd (same ▸ ends') (attributeText_append_not_ends named.1 _)
      | cons entry' attributes' =>
          rw [areNamed, List.all_cons, Bool.and_eq_true] at named'
          obtain ⟨name, value⟩ := entry
          obtain ⟨name', value'⟩ := entry'
          rw [List.flatMap_cons, List.append_assoc, attributeText_append,
            attributeText_append] at same
          have stops (text : List Char) : EndsName ('=' :: text) := ⟨'=', text, rfl, by decide⟩
          obtain ⟨rfl, values⟩ :=
            name_append_inj named.1 named'.1 (stops _) (stops _) (List.cons.inj same).2
          obtain ⟨value_eq, later⟩ :=
            value_append_inj (List.cons.inj (List.cons.inj values).2).2
          obtain ⟨rfl, rfl⟩ := ih named.2 named'.2 later
          obtain rfl := String.toList_inj.mp value_eq
          exact ⟨rfl, rfl⟩

/-! ## Elements -/

mutual

/-- The tags and the attribute names of an element are names. -/
def isWellNamed : Element → Bool
  | .node tag attributes children =>
      isName tag && areNamed attributes && areWellNamed children

/-- The tags and the attribute names of some elements are names. -/
def areWellNamed : List Element → Bool
  | [] => true
  | element :: elements => isWellNamed element && areWellNamed elements

end

theorem remainder_append_ends (tag : String) (children : List Element) (rest : List Char) :
    EndsAttributes (remainder tag children ++ rest) := by
  cases children with
  | nil => exact Or.inl ⟨_, rfl⟩
  | cons child children => exact Or.inr ⟨_, rfl⟩

/-- A tag is followed by a space or by its end. -/
theorem attributes_append_head {rest : List Char} (ends : EndsAttributes rest)
    (attributes : List (String × String)) :
    ∃ stop after, attributes.flatMap attributeText ++ rest = stop :: after ∧
      (stop = ' ' ∨ stop = '>') := by
  cases attributes with
  | nil =>
      obtain ⟨after, rfl⟩ | ⟨after, rfl⟩ := ends
      · exact ⟨' ', _, rfl, Or.inl rfl⟩
      · exact ⟨'>', _, rfl, Or.inr rfl⟩
  | cons entry attributes => exact ⟨' ', _, rfl, Or.inl rfl⟩

theorem attributes_append_ends {rest : List Char} (ends : EndsAttributes rest)
    (attributes : List (String × String)) :
    EndsName (attributes.flatMap attributeText ++ rest) := by
  obtain ⟨stop, after, text_eq, rfl | rfl⟩ := attributes_append_head ends attributes
  · exact ⟨' ', after, text_eq, by decide⟩
  · exact ⟨'>', after, text_eq, by decide⟩

theorem text_append (tag : String) (attributes : List (String × String))
    (children : List Element) (rest : List Char) :
    (node tag attributes children).text ++ rest =
      '<' :: (tag.toList ++ (attributes.flatMap attributeText ++
        (remainder tag children ++ rest))) := by
  simp [text, openingText]

theorem remainder_cons_append (tag : String) (child : Element) (children : List Element)
    (rest : List Char) :
    remainder tag (child :: children) ++ rest =
      '>' :: (child.text ++ (texts children ++ '<' :: '/' :: (tag.toList ++ '>' :: rest))) := by
  simp [remainder, closingText]

/-- An end tag does not begin an element. -/
theorem text_append_ne_closing {element : Element} (well_named : element.isWellNamed)
    (rest after : List Char) : element.text ++ rest ≠ '<' :: '/' :: after := by
  obtain ⟨tag, attributes, children⟩ := element
  rw [isWellNamed, Bool.and_eq_true, Bool.and_eq_true] at well_named
  obtain ⟨⟨tag_named, -⟩, -⟩ := well_named
  obtain ⟨stop, text, text_eq, stop_eq⟩ :=
    attributes_append_head (remainder_append_ends tag children rest) attributes
  rw [text_append, text_eq]
  intro same
  have no_slash : stop ≠ '/' := by
    obtain rfl | rfl := stop_eq
    · decide
    · decide
  exact name_append_ne_slash tag_named no_slash _ _ (List.cons.inj same).2

mutual

/-- An element is read up to its end, whatever follows. -/
theorem text_append_inj {element element' : Element} {rest rest' : List Char}
    (well_named : element.isWellNamed) (well_named' : element'.isWellNamed)
    (same : element.text ++ rest = element'.text ++ rest') : element = element' ∧ rest = rest' := by
  match element, element' with
  | .node tag attributes children, .node tag' attributes' children' =>
      rw [isWellNamed, Bool.and_eq_true, Bool.and_eq_true] at well_named well_named'
      obtain ⟨⟨tag_named, attributes_named⟩, children_named⟩ := well_named
      obtain ⟨⟨tag_named', attributes_named'⟩, children_named'⟩ := well_named'
      rw [text_append, text_append] at same
      have ends := remainder_append_ends tag children rest
      have ends' := remainder_append_ends tag' children' rest'
      obtain ⟨rfl, after_tag⟩ := name_append_inj tag_named tag_named'
        (attributes_append_ends ends attributes) (attributes_append_ends ends' attributes')
        (List.cons.inj same).2
      obtain ⟨rfl, after_attributes⟩ :=
        attributes_append_inj attributes_named attributes_named' ends ends' after_tag
      obtain ⟨rfl, rfl⟩ := remainder_append_inj children_named children_named' after_attributes
      exact ⟨rfl, rfl⟩

/-- The children of an element are read up to its end tag. -/
theorem remainder_append_inj {tag : String} {children children' : List Element}
    {rest rest' : List Char} (well_named : areWellNamed children)
    (well_named' : areWellNamed children')
    (same : remainder tag children ++ rest = remainder tag children' ++ rest') :
    children = children' ∧ rest = rest' := by
  match children, children' with
  | [], [] => exact ⟨rfl, List.append_cancel_left same⟩
  | [], child' :: children' =>
      rw [remainder_cons_append] at same
      simp [remainder] at same
  | child :: children, [] =>
      rw [remainder_cons_append] at same
      simp [remainder] at same
  | child :: children, child' :: children' =>
      rw [areWellNamed, Bool.and_eq_true] at well_named well_named'
      rw [remainder_cons_append, remainder_cons_append] at same
      obtain ⟨rfl, after_child⟩ :=
        text_append_inj well_named.1 well_named'.1 (List.cons.inj same).2
      obtain ⟨rfl, after_children⟩ :=
        texts_append_inj well_named.2 well_named'.2 after_child
      exact ⟨rfl, (List.cons.inj (List.append_cancel_left after_children)).2⟩

/-- Some elements are read up to the end tag that follows. -/
theorem texts_append_inj {elements elements' : List Element} {rest rest' : List Char}
    (well_named : areWellNamed elements) (well_named' : areWellNamed elements')
    (same : texts elements ++ '<' :: '/' :: rest = texts elements' ++ '<' :: '/' :: rest') :
    elements = elements' ∧ rest = rest' := by
  match elements, elements' with
  | [], [] => exact ⟨rfl, by simpa [texts] using same⟩
  | [], element' :: elements' =>
      rw [areWellNamed, Bool.and_eq_true] at well_named'
      rw [texts, texts, List.nil_append, List.append_assoc] at same
      exact absurd same.symm (text_append_ne_closing well_named'.1 _ _)
  | element :: elements, [] =>
      rw [areWellNamed, Bool.and_eq_true] at well_named
      rw [texts, texts, List.nil_append, List.append_assoc] at same
      exact absurd same (text_append_ne_closing well_named.1 _ _)
  | element :: elements, element' :: elements' =>
      rw [areWellNamed, Bool.and_eq_true] at well_named well_named'
      rw [texts, texts, List.append_assoc, List.append_assoc] at same
      obtain ⟨rfl, later⟩ := text_append_inj well_named.1 well_named'.1 same
      obtain ⟨rfl, rfl⟩ := texts_append_inj well_named.2 well_named'.2 later
      exact ⟨rfl, rfl⟩

end

/-- Markup is uniquely readable: elements whose tags and attribute names are names and whose written
forms are equal are equal. -/
theorem eq_of_render_eq {left right : Element} (left_named : left.isWellNamed)
    (right_named : right.isWellNamed) (same : left.render = right.render) : left = right := by
  have texts_eq : left.text ++ [] = right.text ++ [] := by
    rw [List.append_nil, List.append_nil]
    exact String.ofList_injective same
  exact (text_append_inj left_named right_named texts_eq).1

/-- The markup of an element is read as that element and as no other. -/
theorem isWellNamed_and_render_eq_iff {tree element : Element} (well_named : element.isWellNamed) :
    tree.isWellNamed ∧ tree.render = element.render ↔ tree = element := by
  constructor
  · rintro ⟨tree_named, same⟩
    exact eq_of_render_eq tree_named well_named same
  · rintro rfl
    exact ⟨well_named, rfl⟩

end Element
end ChessDrawing
