import TestSkeleton.Proofs.Step
import TestSkeleton.Template.Library

set_option autoImplicit false

/-! # Rendering with an engine

A template is looked for and compiled. What comes of that is a fault, of which nothing is told, or
else a task, which is carried out behind the message that it is (`render_apply`).

A task that reads nothing that two sources have different texts for, and that does not act, comes to
the same with both (`run_of_agrees`), and so does rendering (`result_render_of_agrees`).
-/

namespace TestSkeleton

/-! ## Tasks and sources -/

namespace TemplateTask

variable {σ : Type} {source source' : Text → Except RenderFault Text} {task : TemplateTask σ}

/-- Two sources agree on all that a task reads, and the task does not act. -/
inductive Agrees (source source' : Text → Except RenderFault Text) : TemplateTask σ → Prop where
  | done (r : Except RenderFault Text) : Agrees source source' (.done r)
  | read {file : Text} {next : Except RenderFault Text → TemplateTask σ}
      (h : source file = source' file) (hnext : Agrees source source' (next (source file))) :
      Agrees source source' (.read file next)

/-- **A task comes to the same** with two sources that agree on it, and changes nothing. -/
theorem run_of_agrees (h : task.Agrees source source') :
    ∃ r, ∀ s, task.run (fun f => .ofExcept (source f)) s = ⟨s, r⟩
      ∧ task.run (fun f => .ofExcept (source' f)) s = ⟨s, r⟩ := by
  induction h with
  | done r => exact ⟨r, fun s => ⟨rfl, rfl⟩⟩
  | @read file next h _ ih =>
      obtain ⟨r, hr⟩ := ih
      refine ⟨r, fun s => ⟨(hr s).1, ?_⟩⟩
      show (next (source' file)).run _ s = _
      rw [← h]
      exact (hr s).2

end TemplateTask

namespace TemplateEngine

open Text

variable {σ : Type} {engine : TemplateEngine σ} {source : Text → Step σ RenderFault Text}
  {tell : Event → σ → σ} {template text : Text} {vars : Bindings} {s : σ}
  {task : Bindings → TemplateTask σ} {limit : Nat}

/-- What comes of the text of a template, if there is one. -/
theorem render_apply (engine : TemplateEngine σ) (source : Text → Step σ RenderFault Text)
    (tell : Event → σ → σ) (template : Text) (vars : Bindings) (s : σ) :
    engine.render source tell template vars s
      = match (source (templateFile template) s).result >>= engine.compile (templateFile template) with
        | .ok task =>
          (((task vars).run source).mapError fun f => RenderError.mk template f.whileRendering)
            (tell (.templateRendering (templateFile template))
              (source (templateFile template) s).state)
        | .error f =>
          ⟨(source (templateFile template) s).state, .error ⟨template, f.beforeRendering⟩⟩ := by
  have hcompiled : ((source (templateFile template)) >>= fun t =>
        Step.ofExcept (engine.compile (templateFile template) t)) s
      = ⟨(source (templateFile template) s).state,
          (source (templateFile template) s).result >>= engine.compile (templateFile template)⟩ := by
    cases h : (source (templateFile template) s).result with
    | ok t => exact Step.bind_of_ok h _
    | error f => exact Step.bind_of_error h _
  show Step.bind (Step.mapError _ _) _ s = _
  simp only [Step.bind, Step.mapError_apply, hcompiled]
  cases (source (templateFile template) s).result >>= engine.compile (templateFile template) <;> rfl

/-- A template that is found and compiled is rendered by its task, from the state in which it is
found and told of. -/
theorem render_of_ok (hsource : (source (templateFile template) s).result = .ok text)
    (hcompile : engine.compile (templateFile template) text = .ok task) :
    engine.render source tell template vars s
      = (((task vars).run source).mapError fun f => RenderError.mk template f.whileRendering)
          (tell (.templateRendering (templateFile template))
            (source (templateFile template) s).state) := by
  rw [render_apply, hsource]
  show (match engine.compile _ text with | .ok task => _ | .error f => _) = _
  rw [hcompile]

/-- Otherwise its fault is known before anything is told. -/
theorem render_of_error {f : RenderFault}
    (h : (source (templateFile template) s).result >>= engine.compile (templateFile template)
      = .error f) :
    engine.render source tell template vars s
      = ⟨(source (templateFile template) s).state, .error ⟨template, f.beforeRendering⟩⟩ := by
  rw [render_apply, h]

/-- What the standard engine makes of a template. -/
def standardTask (file : Text) (t : Template) (vars : Bindings) : TemplateTask σ :=
  if (vars.lookup ownName).isSome then .fail .reservedName else renderNested vars depthLimit file t

/-- A text that is read as a template becomes the task to render that. -/
theorem compile_standard (file text : Text) :
    (standard (σ := σ)).compile file text = (Template.ofText text).map (standardTask file) := by
  show (Template.ofText text >>= _) = _
  cases Template.ofText text <;> rfl

theorem compile_standard_of_ok {t : Template} (h : Template.ofText text = .ok t) (file : Text) :
    (standard (σ := σ)).compile file text = .ok (standardTask file t) := by
  rw [compile_standard, h]
  rfl

/-- A template without others inside of it is rendered as its pieces, whatever the limit is for
templates inside of each other. -/
theorem renderNested_of_text {file t : Text} {u : Template} (hlimit : 0 < limit)
    (h : ∀ part : Text → TemplateTask σ, u.render part (valuesIn file vars) = .text t) :
    (renderNested vars limit file u : TemplateTask σ) = .text t := by
  obtain ⟨depth, rfl⟩ := Nat.exists_eq_succ_of_ne_zero (Nat.ne_of_gt hlimit)
  exact h _

/-! ## Two sources -/

/-- All that is done to render a template, from looking for it. -/
def taskOf (engine : TemplateEngine σ) (template : Text) (vars : Bindings) : TemplateTask σ :=
  .read (templateFile template) fun text =>
    match text >>= engine.compile (templateFile template) with
    | .ok task => task vars
    | .error f => .fail f

/-- **Rendering comes to the same** with two sources that agree on the task, whatever the states and
whatever is told. -/
theorem result_render_of_agrees {source source' : Text → Except RenderFault Text}
    (h : (engine.taskOf template vars).Agrees source source') (tell tell' : Event → σ → σ) (s s' : σ) :
    (engine.render (fun f => .ofExcept (source f)) tell template vars s).result
      = (engine.render (fun f => .ofExcept (source' f)) tell' template vars s').result := by
  obtain _ | ⟨hsource, hnext⟩ := h
  rw [render_apply, render_apply, Step.ofExcept_apply, Step.ofExcept_apply, ← hsource]
  cases hcompiled : source (templateFile template) >>= engine.compile (templateFile template) with
  | error f => rfl
  | ok task =>
      simp only [hcompiled] at hnext
      obtain ⟨r, hr⟩ := TemplateTask.run_of_agrees hnext
      simp only [Step.mapError_apply, (hr _).1, (hr _).2]

end TemplateEngine

end TestSkeleton
