import ChessDrawing.Proofs.Document.Step
import ChessDrawing.Proofs.Run

/-!
# Runs of a session

A run takes steps one after the other from a session with the default style and no renderer of its
own.  As long as nobody else registers a renderer of the own language or writes the own row, the
style in force is valid, the renderer in use renders in it, and from the first style that was put in
force on it is the stored style.  A renderer that was kept goes on rendering in the style it was
made with.
-/

namespace ChessDrawing
namespace Session

/-- The session after some steps. -/
abbrev run (session : Session) (steps : List Step) : Session :=
  runSteps (fun session step => (session.step step).2) session steps

/-- A property that every move of a step of the run keeps is kept by the run. -/
theorem run_keeps {session : Session} {Kept : Session → Prop} {steps : List Step}
    (before : Kept session)
    (moves_keep : ∀ step ∈ steps, ∀ {session next : Session},
      Kept session → session.Moves step next → Kept next) :
    Kept (session.run steps) :=
  runSteps_keeps before fun step mem _ kept => step_keeps kept fun _ => moves_keep step mem kept

/-- The session before its first step. -/
structure Fresh (session : Session) : Prop where
  /-- The default style is in force. -/
  style : session.style = Style.default
  /-- Nothing renders the own language. -/
  unregistered : session.renderers.renderer? Block.ownLanguage = none

/-- The step leaves the own row and the own language to the session. -/
def Step.Allowed : Step → Prop
  | .seed other _ => other ≠ owner
  | .register language _ => language ≠ Block.ownLanguage
  | _ => True

/-- The step is a load or an update, and it is answered: it puts a style in force. -/
def Applies (session : Session) (step : Step) : Prop :=
  (step = .load ∨ ∃ form, step = .update form) ∧ ∃ answer, (session.step step).1 = .ok answer

/-! ## Styles and renderers -/

/-- The style in force is valid, and the renderer in use renders in it. -/
structure Coherent (session : Session) : Prop where
  /-- The style is valid. -/
  valid : session.style.Valid
  /-- The renderer of the own language has the style in force. -/
  current : ∀ renderer, session.renderers.renderer? Block.ownLanguage = some renderer →
    renderer.run = renderIn session.style

variable {session next : Session} {step : Step} {renderer : Renderer}

theorem Fresh.coherent (fresh : session.Fresh) : session.Coherent where
  valid := fresh.style ▸ Style.valid_default
  current renderer found := by
    rw [fresh.unregistered] at found
    cases found

theorem renderer?_register_self (renderers : Renderers) (language : String)
    (run : String → Except BlockFault String) :
    (renderers.register language run).renderer? language =
      some { serial := renderers.registrations, run } :=
  Table.lookup_put_self _ _ _

theorem renderer?_register_of_ne {language other : String} (different : other ≠ language)
    (renderers : Renderers) (run : String → Except BlockFault String) :
    (renderers.register language run).renderer? other = renderers.renderer? other :=
  Table.lookup_put_of_ne different _ _

/-- The style that a load puts in force is valid. -/
theorem valid_of_load {stored : Option Style} (loaded : session.store.load owner = .ok stored) :
    (stored.getD Style.default).Valid := by
  cases stored with
  | none => exact Style.valid_default
  | some style => exact Store.valid_of_load loaded

theorem coherent_adopt {style : Style} (valid : style.Valid) :
    (session.adopt style).Coherent where
  valid := valid
  current renderer found := by
    rw [adopt, renderer?_register_self] at found
    obtain rfl := Option.some.inj found
    rfl

/-- A move that puts a style in force puts a valid one in force. -/
theorem exists_adopt_of_moves (moves : session.Moves step next)
    (adopts : step = .load ∨ ∃ form, step = .update form) :
    ∃ (before : Session) (style : Style), style.Valid ∧ next = before.adopt style := by
  cases moves with
  | load loaded => exact ⟨session, _, valid_of_load loaded, rfl⟩
  | update sent accepted saved_eq => exact ⟨_, _, valid_of_apply accepted, rfl⟩
  | _ => simp at adopts

/-- A step other than a load or an update leaves the style in force. -/
theorem style_of_moves (moves : session.Moves step next)
    (adopts_nothing : ¬ (step = .load ∨ ∃ form, step = .update form)) :
    next.style = session.style := by
  cases moves with
  | load loaded => exact absurd (Or.inl rfl) adopts_nothing
  | update sent accepted saved_eq => exact absurd (Or.inr ⟨_, rfl⟩) adopts_nothing
  | _ => rfl

/-- The style in force stays valid. -/
theorem valid_of_moves (valid : session.style.Valid) (moves : session.Moves step next) :
    next.style.Valid := by
  by_cases adopts : step = .load ∨ ∃ form, step = .update form
  · obtain ⟨before, style, valid, rfl⟩ := exists_adopt_of_moves moves adopts
    exact valid
  · rw [style_of_moves moves adopts]
    exact valid

/-- A step other than a load or an update leaves the renderer in use, unless it registers another
one. -/
theorem renderer?_of_moves (moves : session.Moves step next)
    (adopts_nothing : ¬ (step = .load ∨ ∃ form, step = .update form))
    (foreign : ∀ run, .register Block.ownLanguage run ≠ step) :
    next.renderers.renderer? Block.ownLanguage =
      session.renderers.renderer? Block.ownLanguage := by
  cases moves with
  | load loaded => exact absurd (Or.inl rfl) adopts_nothing
  | update sent accepted saved_eq => exact absurd (Or.inr ⟨_, rfl⟩) adopts_nothing
  | register language run =>
      apply renderer?_register_of_ne
      rintro rfl
      exact foreign run rfl
  | _ => rfl

theorem Step.Allowed.ne_register (allowed : step.Allowed)
    (run : String → Except BlockFault String) : .register Block.ownLanguage run ≠ step := by
  rintro rfl
  exact allowed rfl

theorem Coherent.of_moves (coherent : session.Coherent) (allowed : step.Allowed)
    (moves : session.Moves step next) : next.Coherent := by
  by_cases adopts : step = .load ∨ ∃ form, step = .update form
  · obtain ⟨before, style, valid, rfl⟩ := exists_adopt_of_moves moves adopts
    exact coherent_adopt valid
  · have same_style := style_of_moves moves adopts
    have same_renderer := renderer?_of_moves moves adopts allowed.ne_register
    exact ⟨same_style ▸ coherent.valid, same_style ▸ same_renderer ▸ coherent.current⟩

theorem Coherent.run {steps : List Step} (coherent : session.Coherent)
    (allowed : ∀ step ∈ steps, step.Allowed) : (session.run steps).Coherent :=
  run_keeps coherent fun step mem _ _ coherent => coherent.of_moves (allowed step mem)

/-- Only a step that puts a style in force changes the renderer in use. -/
theorem renderer?_of_not_applies (allowed : step.Allowed) (not_applies : ¬ session.Applies step) :
    (session.step step).2.renderers.renderer? Block.ownLanguage =
      session.renderers.renderer? Block.ownLanguage := by
  cases answered : (session.step step).1 with
  | error fault => rw [step_of_error answered]
  | ok answer =>
      apply renderer?_of_moves (moves_of_answer answered) _ allowed.ne_register
      exact fun adopts => not_applies ⟨adopts, answer, answered⟩

/-- The renderer in use was in use before the run, or a step of the run made it. -/
theorem exists_registration {steps : List Step} (allowed : ∀ step ∈ steps, step.Allowed)
    (current : (session.run steps).renderers.renderer? Block.ownLanguage = some renderer) :
    session.renderers.renderer? Block.ownLanguage = some renderer ∨
      ∃ before step after, steps = before ++ step :: after ∧
        (session.run before).Applies step ∧
          (session.run (before ++ [step])).renderers.renderer? Block.ownLanguage =
            some renderer := by
  induction steps generalizing session with
  | nil => exact Or.inl current
  | cons step steps ih =>
      rw [List.forall_mem_cons] at allowed
      rcases ih allowed.2 current with at_once | ⟨before, later, after, rfl, applies, made⟩
      · by_cases applies : session.Applies step
        · exact Or.inr ⟨[], step, steps, rfl, applies, at_once⟩
        · exact Or.inl (renderer?_of_not_applies allowed.1 applies ▸ at_once)
      · exact Or.inr ⟨step :: before, later, after, rfl, applies, made⟩

/-! ## The stored style -/

/-- The style in force is the stored one, or the default style if none is stored. -/
def Settled (session : Session) : Prop :=
  ∃ stored, session.store.load owner = .ok stored ∧ session.style = stored.getD Style.default

/-- A style that is put in force is the stored one. -/
theorem settled_of_moves (moves : session.Moves step next)
    (adopts : step = .load ∨ ∃ form, step = .update form) : next.Settled := by
  cases moves with
  | load loaded => exact ⟨_, loaded, rfl⟩
  | update sent accepted saved_eq =>
      obtain ⟨-, loaded⟩ := Store.load_of_save (valid_of_apply accepted) saved_eq
      exact ⟨_, loaded, rfl⟩
  | _ => simp at adopts

theorem settled_of_applies (applies : session.Applies step) : (session.step step).2.Settled := by
  obtain ⟨adopts, answer, answered⟩ := applies
  exact settled_of_moves (moves_of_answer answered) adopts

theorem Settled.of_moves (settled : session.Settled) (allowed : step.Allowed)
    (moves : session.Moves step next) : next.Settled := by
  obtain ⟨stored, loaded, style_eq⟩ := settled
  cases moves with
  | load loaded => exact settled_of_moves (.load loaded) (Or.inl rfl)
  | update sent accepted saved_eq =>
      exact settled_of_moves (.update sent accepted saved_eq) (Or.inr ⟨_, rfl⟩)
  | seed other value =>
      have same_row : (session.store.seed other value).load owner = session.store.load owner :=
        Store.load_congr (Store.value?_seed_of_ne (Ne.symm allowed))
      exact ⟨stored, same_row.trans loaded, style_eq⟩
  | _ => exact ⟨stored, loaded, style_eq⟩

theorem Settled.run {steps : List Step} (settled : session.Settled)
    (allowed : ∀ step ∈ steps, step.Allowed) : (session.run steps).Settled :=
  run_keeps settled fun step mem _ _ settled => settled.of_moves (allowed step mem)

/-! ## Kept renderers -/

theorem kept_of_moves {name : String} (moves : session.Moves step next)
    (keeps_others : ∀ language, step ≠ .keep name language) :
    next.kept.lookup name = session.kept.lookup name := by
  cases moves with
  | keep other found =>
      apply Table.lookup_put_of_ne
      rintro rfl
      exact keeps_others _ rfl
  | _ => rfl

/-- A kept renderer stays what it is until another one is kept under its name. -/
theorem kept_run {name : String} {steps : List Step}
    (keeps_others : ∀ language, .keep name language ∉ steps) :
    (session.run steps).kept.lookup name = session.kept.lookup name := by
  apply @run_keeps session fun next => next.kept.lookup name = session.kept.lookup name
  · rfl
  · intro step mem before next kept moves
    rw [← kept]
    apply kept_of_moves moves
    rintro language rfl
    exact keeps_others language mem

theorem kept_step {name language : String}
    (found : session.renderers.renderer? language = some renderer) :
    (session.step (.keep name language)).2.kept.lookup name = some renderer := by
  have kept : (session.step (.keep name language)).2 =
      { session with kept := session.kept.put name renderer } := by
    simp [Session.step, act, renderer_eq_ok_iff.mpr found]
  rw [kept]
  exact Table.lookup_put_self name renderer session.kept

theorem step_call {name source : String} (kept : session.kept.lookup name = some renderer) :
    session.step (.call name source) =
      (((renderer.run source).mapError .block).map .markup, session) := by
  simp [Session.step, act, keptRenderer, kept]

/-! ## Whole runs -/

/-- After every run of allowed steps: the style in force is valid; the renderer in use gives each
source the markup of its diagram in the style in force; a renderer that was kept does so in the style
that the step that made it put in force; the style in force is the stored one as soon as a load or an
update has been answered; and a step that fails leaves the store, the renderers and the style in
force as they were. -/
theorem run_coherent_and_settled {start : Session} {steps : List Step} (fresh : start.Fresh)
    (allowed : ∀ step ∈ steps, step.Allowed) :
    (start.run steps).style.Valid ∧
      (∀ renderer, (start.run steps).renderers.renderer? Block.ownLanguage = some renderer →
        ∀ source, renderer.run source =
          (Diagram.render (start.run steps).style source).mapError .diagram) ∧
      (∀ before name after renderer, steps = before ++ .keep name Block.ownLanguage :: after →
        (start.run before).renderers.renderer? Block.ownLanguage = some renderer →
        (∀ language, .keep name language ∉ after) →
        ∃ earlier step between, before = earlier ++ step :: between ∧
          (start.run earlier).Applies step ∧
          (start.run (earlier ++ [step])).renderers.renderer? Block.ownLanguage = some renderer ∧
          ∀ source,
            renderer.run source =
              (Diagram.render (start.run (earlier ++ [step])).style source).mapError .diagram ∧
            (start.run steps).step (.call name source) =
              (((renderer.run source).mapError .block).map .markup, start.run steps)) ∧
      (∀ before step after, steps = before ++ step :: after → (start.run before).Applies step →
        ∃ stored, (start.run steps).store.load owner = .ok stored ∧
          (start.run steps).style = stored.getD Style.default) ∧
      ∀ step fault, ((start.run steps).step step).1 = .error fault →
        ((start.run steps).step step).2 = start.run steps := by
  have coherent := fresh.coherent.run allowed
  refine ⟨coherent.valid, ?_, ?_, ?_, fun _ _ => step_of_error⟩
  · intro renderer found source
    rw [coherent.current renderer found, renderIn]
  · rintro before name after renderer rfl found keeps_others
    rw [List.forall_mem_append, List.forall_mem_cons] at allowed
    rcases exists_registration allowed.1 found with
      at_start | ⟨earlier, step, between, rfl, applies, made⟩
    · rw [fresh.unregistered] at at_start
      cases at_start
    · have allowed_until : ∀ later ∈ earlier ++ [step], later.Allowed := by
        intro later mem
        exact allowed.1 later (by simp at mem ⊢; tauto)
      refine ⟨earlier, step, between, rfl, applies, made, fun source => ⟨?_, ?_⟩⟩
      · rw [(fresh.coherent.run allowed_until).current renderer made, renderIn]
      · apply step_call
        rw [run, runSteps_append, runSteps_cons, kept_run keeps_others]
        exact kept_step found
  · rintro before step after rfl applies
    rw [List.forall_mem_append, List.forall_mem_cons] at allowed
    rw [run, runSteps_append, runSteps_cons]
    exact (settled_of_applies applies).run allowed.2.2

/-- An update is made over a bad row.  The renderer that it registers is kept, and goes on rendering in
the width 480 when the width in force is 64.  In the end the store refuses an update, and everything
stays as it was. -/
theorem run_over_bad_row :
    let start : Session :=
      { initial with store := { rows := [(owner, .text "blue")], refusing := false } }
    let first : Step := .update [("board_width_px", .integer 480)]
    let second : Step := .update [("board_width_px", .integer 64)]
    let last := start.run
      [first, .keep "first" Block.ownLanguage, second, .load, .refuse true]
    let refused : Step := .update [("white_square_color", .text "red")]
    start.Fresh ∧ last.style.Valid ∧ last.style = { Style.default with width := 64 } ∧
      last.store.load owner = .ok (some last.style) ∧
      (∃ renderer, last.renderers.renderer? Block.ownLanguage = some renderer ∧ ∀ source,
        renderer.run source = (Diagram.render last.style source).mapError .diagram) ∧
      (∀ source, last.step (.call "first" source) =
        ((((Diagram.render { Style.default with width := 480 } source).mapError .diagram).mapError
          .block).map .markup, last)) ∧
      (∃ fault, (last.step refused).1 = .error fault) ∧ (last.step refused).2 = last := by
  intro start first second last refused
  have fresh : start.Fresh := ⟨rfl, rfl⟩
  have allowed : ∀ step ∈ [first, .keep "first" Block.ownLanguage, second, .load, .refuse true],
      step.Allowed := by
    simp [first, second, Step.Allowed]
  obtain ⟨valid, current, kept, settled, unchanged⟩ := run_coherent_and_settled fresh allowed
  have style_eq : last.style = { Style.default with width := 64 } := by
    simp only [last, start, first, second]
    decide +kernel
  refine ⟨fresh, valid, style_eq, ?_, ?_, ?_, ?_⟩
  · have applies :
        (start.run [first, .keep "first" Block.ownLanguage]).Applies second := by
      refine ⟨Or.inr ⟨_, rfl⟩, isOk_iff_exists.mp ?_⟩
      simp only [start, first, second]
      decide +kernel
    obtain ⟨stored, loaded, in_force⟩ :=
      settled [first, .keep "first" Block.ownLanguage] second _ rfl applies
    cases stored with
    | none =>
        rw [style_eq] at in_force
        cases in_force
    | some style => rw [loaded, in_force, Option.getD_some]
  · have used : (last.renderers.renderer? Block.ownLanguage).isSome = true := by
      simp only [last, start, first, second]
      decide +kernel
    obtain ⟨renderer, found⟩ := Option.isSome_iff_exists.mp used
    exact ⟨renderer, found, current renderer found⟩
  · have taken : ((start.run [first]).renderers.renderer? Block.ownLanguage).isSome = true := by
      simp only [start, first]
      decide +kernel
    obtain ⟨renderer, found⟩ := Option.isSome_iff_exists.mp taken
    obtain ⟨earlier, step, between, first_eq, -, -, renders⟩ :=
      kept [first] "first" [second, .load, .refuse true] renderer rfl found (by simp [second])
    obtain ⟨rfl, rfl, rfl⟩ : earlier = [] ∧ step = first ∧ between = [] := by
      simpa [List.append_eq_cons_iff, eq_comm] using first_eq
    have style_then : (start.run ([] ++ [first])).style = { Style.default with width := 480 } := by
      simp only [start, first]
      decide +kernel
    intro source
    obtain ⟨rendered, called⟩ := renders source
    rw [style_then] at rendered
    rw [called, rendered]
  · have failed : (last.step refused).1.isOk = false := by
      simp only [last, start, first, second, refused]
      decide +kernel
    cases answered : (last.step refused).1 with
    | ok answer =>
        rw [answered] at failed
        cases failed
    | error fault => exact ⟨⟨fault, rfl⟩, unchanged refused fault answered⟩

end Session
end ChessDrawing
