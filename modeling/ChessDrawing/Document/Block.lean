import ChessDrawing.Settings.Reading

/-!
# Code blocks

A document holds code blocks, each with a language and a source.  Rendering a block answers with its
markup, or with a message where the source is to blame.
-/

namespace ChessDrawing

/-- A code block to be rendered. -/
structure Block where
  /-- The language of the block. -/
  language : String
  /-- The source text of the block. -/
  source : String
  deriving DecidableEq

namespace Block

/-- The language of the blocks that this library renders. -/
def ownLanguage : String := "chessboard"

/-- Read a text field of a form; without a default the field is required. -/
def readField (key : String) (absent : Option String) (form : List (String × Value)) :
    Except FieldFault String :=
  match form.lookup key with
  | none =>
      match absent with
      | some text => .ok text
      | none => .error { key := some key, problem := .missing }
  | some value =>
      match value.readText with
      | .ok text => .ok text
      | .error problem => .error { key := some key, problem }

/-- Read a block from the fields of a form, or collect the faults of all fields. -/
def ofForm (form : List (String × Value)) : Except (List FieldFault) Block :=
  match readField "language" (some ownLanguage) form, readField "source" none form with
  | .ok language, .ok source => .ok { language, source }
  | language, source => .error (faultsOf language ++ faultsOf source)

end Block

/-- What became of a code block. -/
structure RenderedBlock where
  /-- The language of the block. -/
  language : String
  /-- The markup, or the message that stands in its place. -/
  content : Except String String

end ChessDrawing
