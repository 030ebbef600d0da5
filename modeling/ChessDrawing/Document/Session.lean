import ChessDrawing.Document.Renderers
import ChessDrawing.Drawing.Diagram
import ChessDrawing.Settings.Change
import ChessDrawing.Settings.Store

/-!
# Sessions

A session is a running document: the stored settings, the renderers, and the style in force.
Loading and updating settings register a new renderer, which keeps the style it was made with; an
update stores the new style first and then puts it in force.
-/

namespace ChessDrawing

/-- A running document. -/
structure Session where
  /-- The stored settings. -/
  store : Store
  /-- The renderers of the document. -/
  renderers : Renderers
  /-- The style in force. -/
  style : Style
  /-- Renderers that were taken and kept under a name. -/
  kept : Table Renderer

namespace Session

/-- Why a step has no result. -/
inductive StepFault where
  /-- A form or a changed style is not valid. -/
  | settings (faults : List FieldFault)
  /-- The store could not load or save. -/
  | store (fault : StoreFault)
  /-- No renderer is registered for a language. -/
  | unregistered (language : String)
  /-- No renderer is kept under a name. -/
  | unknown (name : String)
  /-- A block was not rendered. -/
  | block (fault : BlockFault)

namespace StepFault

/-- A fault of a step of work with the store. -/
def ofStore : Store.StepFault → StepFault
  | .settings faults => .settings faults
  | .store fault => .store fault

/-- The message for a language without a renderer. -/
def unregisteredMessage (language : String) : String :=
  "No renderer registered for " ++ Text.quoted language ++ " code blocks"

end StepFault

/-- The owner of the settings row of a session. -/
def owner : String := "chessboard"

/-- A document before anything is loaded. -/
def initial : Session :=
  { store := Store.empty, renderers := Renderers.empty, style := Style.default, kept := [] }

/-- The markup of a source in a style. -/
def renderIn (style : Style) (source : String) : Except BlockFault String :=
  (Diagram.render style source).mapError .diagram

/-- Put a style in force and register a renderer that keeps it. -/
def adopt (session : Session) (style : Style) : Session :=
  { session with
    style
    renderers := session.renderers.register Block.ownLanguage (renderIn style) }

/-- Work with the store of a session. -/
def withStore {Result : Type} (work : Action Store Store.StepFault Result) :
    Action Session StepFault Result :=
  work.within Session.store (fun session store => { session with store }) StepFault.ofStore

/-- Put the stored style in force, or the default style if none is stored. -/
def load : Action Session StepFault Unit := do
  let session ← get
  let stored ← (session.store.load owner).mapError StepFault.store
  modify fun session => session.adopt (stored.getD Style.default)

/-- Change the style in force, store it, and put it in force. -/
def update (change : Change) : Action Session StepFault Style := do
  let session ← get
  let style ← (change.apply session.style).mapError StepFault.settings
  let _ ← withStore (Store.save owner style)
  modify fun session => session.adopt style
  return style

/-- The markup of a source in the style in force. -/
def render (session : Session) (source : String) : Except StepFault String :=
  (renderIn session.style source).mapError .block

/-- The renderer of a language. -/
def renderer (session : Session) (language : String) : Except StepFault Renderer :=
  match session.renderers.renderer? language with
  | some renderer => .ok renderer
  | none => .error (.unregistered language)

/-- The renderer kept under a name. -/
def keptRenderer (session : Session) (name : String) : Except StepFault Renderer :=
  match session.kept.lookup name with
  | some renderer => .ok renderer
  | none => .error (.unknown name)

/-- Render a block with the renderer of its language. -/
def renderBlock (session : Session) (block : Block) : Except StepFault RenderedBlock := do
  let renderer ← session.renderer block.language
  (renderer.answer block).mapError .block

/-! ## Runs -/

/-- A step of work with a document. -/
inductive Step where
  | seed (owner : String) (value : Value)
  | refuse (refusing : Bool)
  | load
  | update (form : List (String × Value))
  | render (source : String)
  | block (form : List (String × Value))
  | register (language : String) (run : String → Except BlockFault String)
  | keep (name language : String)
  | call (name source : String)
  | same (name language : String)

/-- The result of a step. -/
inductive Answer where
  | done
  | style (style : Style)
  | markup (markup : String)
  | block (block : RenderedBlock)
  | same (isSame : Bool)

/-- What a step does. -/
def act : Step → Action Session StepFault Answer
  | .seed owner value => do
      modify fun session => { session with store := session.store.seed owner value }
      return .done
  | .refuse refusing => do
      modify fun session => { session with store := session.store.refuse refusing }
      return .done
  | .load => do
      load
      return .done
  | .update form => do
      let change ← (Change.ofForm form).mapError StepFault.settings
      let style ← update change
      return .style style
  | .render source => do
      let session ← get
      let markup ← session.render source
      return .markup markup
  | .block form => do
      let session ← get
      let block ← (Block.ofForm form).mapError StepFault.settings
      let rendered ← session.renderBlock block
      return .block rendered
  | .register language run => do
      modify fun session =>
        { session with renderers := session.renderers.register language run }
      return .done
  | .keep name language => do
      let session ← get
      let renderer ← session.renderer language
      set { session with kept := session.kept.put name renderer }
      return .done
  | .call name source => do
      let session ← get
      let renderer ← session.keptRenderer name
      let markup ← (renderer.run source).mapError StepFault.block
      return .markup markup
  | .same name language => do
      let session ← get
      let kept ← session.keptRenderer name
      let current ← session.renderer language
      return .same (kept.serial == current.serial)

/-- The result of a step and the session after it. -/
def step (session : Session) (step : Step) : Except StepFault Answer × Session :=
  (act step).on session

end Session
end ChessDrawing
