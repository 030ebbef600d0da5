import ChessDrawing.Document.Block
import ChessDrawing.Fault
import ChessDrawing.Table

/-!
# Renderers

A document keeps one renderer per language.  Each registration makes a new renderer with a number of
its own, and a renderer taken earlier stays what it was.  A block whose source is to blame is
answered with a message, so that it never takes the rest of the document down.
-/

namespace ChessDrawing

/-- A fault that a renderer of another library reports. -/
structure ForeignFault where
  /-- The name of the kind of fault. -/
  kind : String
  /-- The message. -/
  message : String
  /-- Whether the source of the block is to blame. -/
  blamesSource : Bool
  deriving DecidableEq

/-- Why a block was not rendered. -/
inductive BlockFault where
  /-- A diagram could not be rendered. -/
  | diagram (fault : RenderFault)
  /-- Another renderer failed. -/
  | foreign (fault : ForeignFault)
  deriving DecidableEq

namespace BlockFault

/-- The message of a fault for which the source of the block is to blame. -/
def sourceMessage? : BlockFault → Option String
  | .diagram (.source fault) => some fault.message
  | .diagram (.geometry _) => none
  | .foreign fault => if fault.blamesSource then some fault.message else none

end BlockFault

/-- A numbered way of turning sources into markup. -/
structure Renderer where
  /-- The number of the registration. -/
  serial : Nat
  /-- The markup of a source. -/
  run : String → Except BlockFault String

namespace Renderer

/-- Render a source, with a message in place of the markup where the source is to blame. -/
def answer (renderer : Renderer) (block : Block) : Except BlockFault RenderedBlock :=
  match renderer.run block.source with
  | .ok markup => .ok { language := block.language, content := .ok markup }
  | .error fault =>
      match fault.sourceMessage? with
      | some message => .ok { language := block.language, content := .error message }
      | none => .error fault

end Renderer

/-- The renderers of a document. -/
structure Renderers where
  /-- The renderer of each language. -/
  entries : Table Renderer
  /-- How many registrations there have been. -/
  registrations : Nat

namespace Renderers

/-- No renderers. -/
def empty : Renderers :=
  { entries := [], registrations := 0 }

/-- Register a way of rendering a language; it takes the place of an earlier one. -/
def register (renderers : Renderers) (language : String)
    (run : String → Except BlockFault String) : Renderers :=
  { entries := renderers.entries.put language { serial := renderers.registrations, run }
    registrations := renderers.registrations + 1 }

/-- The renderer of a language. -/
def renderer? (renderers : Renderers) (language : String) : Option Renderer :=
  renderers.entries.lookup language

end Renderers
end ChessDrawing
