import ChessDrawing.Document.Session
import ChessDrawing.Proofs.Settings.Store

/-!
# Steps of a session

A step that is answered moves the session in one of ten ways, and a step that fails leaves it as it
was.  Nothing is put in force before the last check of a step has been passed.  An update writes the
settings row before it reads the row back, but where this reading fails the row is unchanged.
-/

namespace ChessDrawing
namespace Session

/-- What a step makes of a session when it is answered. -/
inductive Moves (session : Session) : Step → Session → Prop
  /-- A row is written past the session. -/
  | seed (other : String) (value : Value) :
      Moves session (.seed other value)
        { session with store := session.store.seed other value }
  /-- The store begins or ceases to refuse writes. -/
  | refuse (refusing : Bool) :
      Moves session (.refuse refusing) { session with store := session.store.refuse refusing }
  /-- The stored style is put in force. -/
  | load {stored : Option Style} (loaded : session.store.load owner = .ok stored) :
      Moves session .load (session.adopt (stored.getD Style.default))
  /-- A changed style is stored and put in force. -/
  | update {form : List (String × Value)} {change : Change} {style stored : Style} {saved : Store}
      (sent : Change.ofForm form = .ok change) (accepted : change.apply session.style = .ok style)
      (saved_eq : (Store.save owner style).on session.store = (.ok stored, saved)) :
      Moves session (.update form) ({ session with store := saved }.adopt style)
  /-- A diagram is rendered. -/
  | render (source : String) : Moves session (.render source) session
  /-- A block is rendered. -/
  | block (form : List (String × Value)) : Moves session (.block form) session
  /-- A renderer is registered past the session. -/
  | register (language : String) (run : String → Except BlockFault String) :
      Moves session (.register language run)
        { session with renderers := session.renderers.register language run }
  /-- The renderer of a language is kept under a name. -/
  | keep (name : String) {language : String} {renderer : Renderer}
      (found : session.renderers.renderer? language = some renderer) :
      Moves session (.keep name language) { session with kept := session.kept.put name renderer }
  /-- A kept renderer is called. -/
  | call (name source : String) : Moves session (.call name source) session
  /-- A kept renderer is compared. -/
  | same (name language : String) : Moves session (.same name language) session

variable {session next : Session} {step : Step} {fault : StepFault} {change : Change}

theorem valid_of_apply {style result : Style} (applied : change.apply style = .ok result) :
    result.Valid :=
  Style.valid_of_ofObject applied

theorem renderer_eq_ok_iff {language : String} {renderer : Renderer} :
    session.renderer language = .ok renderer ↔
      session.renderers.renderer? language = some renderer := by
  unfold Session.renderer
  cases session.renderers.renderer? language <;> simp

/-! ## Updates -/

theorem on_update_of_apply {style : Style} (applied : change.apply session.style = .ok style) :
    (update change).on session =
      match (Store.save owner style).on session.store with
      | (.ok _, saved) => (.ok style, { session with store := saved }.adopt style)
      | (.error fault, saved) => (.error (.ofStore fault), { session with store := saved }) := by
  simp only [update, withStore, Action.on_bind, Action.on_get, applied, mapError_ok,
    Action.on_liftM, Action.on_within]
  obtain ⟨fault | stored, saved⟩ := (Store.save owner style).on session.store
  · rfl
  · rfl

/-- An update fails and changes nothing, or a changed style is stored and then put in force. -/
theorem on_update_cases (session : Session) (change : Change) :
    (∃ fault, (update change).on session = (.error fault, session)) ∨
      ∃ style stored saved, change.apply session.style = .ok style ∧
        (Store.save owner style).on session.store = (.ok stored, saved) ∧
          (update change).on session = (.ok style, { session with store := saved }.adopt style) := by
  cases applied : change.apply session.style with
  | error faults =>
      refine Or.inl ⟨.settings faults, ?_⟩
      simp [update, applied]
  | ok style =>
      rw [on_update_of_apply applied]
      cases saving : (Store.save owner style).on session.store with
      | mk result saved =>
          cases result with
          | error fault =>
              have unchanged :=
                Store.save_of_error (valid_of_apply applied) (congrArg Prod.fst saving)
              obtain rfl : saved = session.store := by rwa [saving] at unchanged
              exact Or.inl ⟨.ofStore fault, rfl⟩
          | ok stored => exact Or.inr ⟨style, stored, saved, rfl, saving, rfl⟩

theorem after_update_eq_ok_iff :
    (update change).after session = .ok next ↔
      ∃ style stored saved, change.apply session.style = .ok style ∧
        (Store.save owner style).on session.store = (.ok stored, saved) ∧
          { session with store := saved }.adopt style = next := by
  rw [Action.after_eq_ok_iff]
  constructor
  · rintro ⟨answer, updated⟩
    obtain ⟨fault, failed⟩ | ⟨style, stored, saved, applied, saving, made⟩ :=
      on_update_cases session change
    · rw [failed] at updated
      cases updated
    · rw [made] at updated
      exact ⟨style, stored, saved, applied, saving, congrArg Prod.snd updated⟩
  · rintro ⟨style, stored, saved, applied, saving, rfl⟩
    exact ⟨style, by rw [on_update_of_apply applied, saving]⟩

/-! ## All steps -/

/-- A step that leaves the session as it is fails or moves the session nowhere. -/
theorem cases_of_reads (reads : (session.step step).2 = session)
    (moves : session.Moves step session) :
    (∃ fault, session.step step = (.error fault, session)) ∨
      ∃ answer next, session.step step = (.ok answer, next) ∧ session.Moves step next := by
  cases answered : (session.step step).1 with
  | error fault => exact Or.inl ⟨fault, Prod.ext answered reads⟩
  | ok answer => exact Or.inr ⟨answer, session, Prod.ext answered reads, moves⟩

/-- A step fails and changes nothing, or it is answered and moves the session. -/
theorem step_cases (session : Session) (step : Step) :
    (∃ fault, session.step step = (.error fault, session)) ∨
      ∃ answer next, session.step step = (.ok answer, next) ∧ session.Moves step next := by
  cases step with
  | seed other value => exact Or.inr ⟨.done, _, rfl, .seed other value⟩
  | refuse refusing => exact Or.inr ⟨.done, _, rfl, .refuse refusing⟩
  | register language run => exact Or.inr ⟨.done, _, rfl, .register language run⟩
  | load =>
      cases loaded : session.store.load owner with
      | error fault =>
          refine Or.inl ⟨.store fault, ?_⟩
          simp [Session.step, act, load, loaded]
      | ok stored =>
          refine Or.inr ⟨.done, _, ?_, .load loaded⟩
          simp [Session.step, act, load, loaded]
  | update form =>
      cases sent : Change.ofForm form with
      | error faults =>
          refine Or.inl ⟨.settings faults, ?_⟩
          simp [Session.step, act, sent]
      | ok change =>
          obtain ⟨fault, failed⟩ | ⟨style, stored, saved, applied, saving, made⟩ :=
            on_update_cases session change
          · refine Or.inl ⟨fault, ?_⟩
            simp [Session.step, act, sent, failed]
          · refine Or.inr ⟨.style style, _, ?_, .update sent applied saving⟩
            simp [Session.step, act, sent, made]
  | render source =>
      refine cases_of_reads ?_ (.render source)
      simp [Session.step, act]
  | block form =>
      refine cases_of_reads ?_ (.block form)
      cases read : Block.ofForm form <;> simp [Session.step, act, read]
  | keep name language =>
      cases taken : session.renderer language with
      | error fault =>
          refine Or.inl ⟨fault, ?_⟩
          simp [Session.step, act, taken]
      | ok renderer =>
          refine Or.inr ⟨.done, _, ?_, .keep name (renderer_eq_ok_iff.mp taken)⟩
          simp [Session.step, act, taken]
  | call name source =>
      refine cases_of_reads ?_ (.call name source)
      cases kept : session.keptRenderer name <;> simp [Session.step, act, kept]
  | same name language =>
      refine cases_of_reads ?_ (.same name language)
      cases kept : session.keptRenderer name <;> simp [Session.step, act, kept]

theorem moves_of_answer {answer : Answer} (answered : (session.step step).1 = .ok answer) :
    session.Moves step (session.step step).2 := by
  obtain ⟨fault, failed⟩ | ⟨answer, next, step_eq, moves⟩ := step_cases session step
  · rw [failed] at answered
    cases answered
  · rwa [step_eq]

/-- A step that fails leaves the session as it was. -/
theorem step_of_error (failed : (session.step step).1 = .error fault) :
    (session.step step).2 = session := by
  obtain ⟨other, unchanged⟩ | ⟨answer, next, step_eq, -⟩ := step_cases session step
  · rw [unchanged]
  · rw [step_eq] at failed
    cases failed

/-- A property that every move keeps is kept by every step. -/
theorem step_keeps {Kept : Session → Prop} (before : Kept session)
    (moves_keep : ∀ next, session.Moves step next → Kept next) :
    Kept (session.step step).2 := by
  obtain ⟨fault, unchanged⟩ | ⟨answer, next, step_eq, moves⟩ := step_cases session step
  · rwa [unchanged]
  · rw [step_eq]
    exact moves_keep next moves

end Session
end ChessDrawing
