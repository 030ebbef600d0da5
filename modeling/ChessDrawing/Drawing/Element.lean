/-!
# Markup

A drawing is a tree of elements without text between them.  An element is written as a start tag
with its attributes in order, its children without white space, and an end tag; an element without
children is one tag.  Attribute values are escaped so that no value can end its quotation.
-/

namespace ChessDrawing

/-- An element of a drawing. -/
inductive Element where
  | node (tag : String) (attributes : List (String × String)) (children : List Element)

namespace Element

/-- A character as it is written inside an attribute value. -/
def escape (character : Char) : List Char :=
  if character = '&' then ['&', 'a', 'm', 'p', ';']
  else if character = '<' then ['&', 'l', 't', ';']
  else if character = '>' then ['&', 'g', 't', ';']
  else if character = '\x22' then ['&', 'q', 'u', 'o', 't', ';']
  else if character = '\r' then ['&', '#', '1', '3', ';']
  else if character = '\n' then ['&', '#', '1', '0', ';']
  else if character = '\t' then ['&', '#', '0', '9', ';']
  else [character]

/-- An attribute with the space before it. -/
def attributeText : String × String → List Char
  | (name, value) =>
      ' ' :: name.toList ++ '=' :: '\x22' :: (value.toList.flatMap escape ++ ['\x22'])

/-- The beginning of a tag with its attributes. -/
def openingText (tag : String) (attributes : List (String × String)) : List Char :=
  '<' :: tag.toList ++ attributes.flatMap attributeText

/-- The end tag of an element. -/
def closingText (tag : String) : List Char :=
  '<' :: '/' :: tag.toList ++ ['>']

mutual

/-- The written form of an element. -/
def text : Element → List Char
  | .node tag attributes children => openingText tag attributes ++ remainder tag children

/-- What follows the attributes of an element: its children and the end tag, or the end of its only
tag. -/
def remainder (tag : String) : List Element → List Char
  | [] => [' ', '/', '>']
  | child :: children => '>' :: (text child ++ (texts children ++ closingText tag))

/-- The written forms of some elements, one after the other. -/
def texts : List Element → List Char
  | [] => []
  | element :: elements => text element ++ texts elements

end

/-- The written form of an element as a string. -/
def render (element : Element) : String :=
  String.ofList element.text

/-- A group of elements of one class. -/
def group (name : String) (children : List Element) : Element :=
  .node "g" [("class", name)] children

end Element
end ChessDrawing
