import TestSkeleton.Proofs.Result
import TestSkeleton.Proofs.Template.Engine

set_option autoImplicit false

/-! # The standard engine

The tasks of the standard engine read texts and do not act, and they do not depend on what there is
outside: for any two kinds of states they are the same (`Matches`), and with the same texts they come
to the same and leave the states alone (`Matches.run`).
-/

namespace TestSkeleton

open Text TemplateTask

namespace TemplateTask

variable {σ τ : Type}

/-- In this state, a source has these texts. -/
def Reads (source : Text → Step σ RenderFault Text) (texts : Text → Except RenderFault Text) (s : σ) :
    Prop :=
  ∀ file, source file s = ⟨s, texts file⟩

/-- The tasks read the same texts on their way to the same result, and do not act. -/
inductive Matches : TemplateTask σ → TemplateTask τ → Prop where
  | done (r : Except RenderFault Text) : Matches (.done r) (.done r)
  | read (file : Text) {next : Except RenderFault Text → TemplateTask σ}
      {next' : Except RenderFault Text → TemplateTask τ} (h : ∀ r, Matches (next r) (next' r)) :
      Matches (.read file next) (.read file next')

namespace Matches

variable {t : TemplateTask σ} {t' : TemplateTask τ}

theorem andThen {f : Text → TemplateTask σ} {f' : Text → TemplateTask τ} (h : t.Matches t')
    (hf : ∀ u, (f u).Matches (f' u)) : (t.andThen f).Matches (t'.andThen f') := by
  induction h with
  | done r =>
      cases r with
      | ok u => exact hf u
      | error e => exact .done _
  | read file _ ih => exact .read file ih

/-- **With the same texts**, the tasks come to the same and leave the states alone. -/
theorem run {source : Text → Step σ RenderFault Text} {source' : Text → Step τ RenderFault Text}
    {texts : Text → Except RenderFault Text} {s : σ} {s' : τ} (h : t.Matches t')
    (hsource : Reads source texts s) (hsource' : Reads source' texts s') :
    ∃ r, t.run source s = ⟨s, r⟩ ∧ t'.run source' s' = ⟨s', r⟩ := by
  induction h with
  | done r => exact ⟨r, rfl, rfl⟩
  | @read file next next' h ih =>
      obtain ⟨r, hr, hr'⟩ := ih (texts file)
      refine ⟨r, ?_, ?_⟩
      · show (next (source file s).result).run source (source file s).state = _
        rw [hsource]
        exact hr
      · show (next' (source' file s').result).run source' (source' file s').state = _
        rw [hsource']
        exact hr'

end Matches

end TemplateTask

section Rendering

variable {σ τ : Type} {part : Text → TemplateTask σ} {part' : Text → TemplateTask τ}
  {vars : Bindings}

theorem TemplateExpression.use_matches {e : TemplateExpression} {f : Value → TemplateTask σ}
    {f' : Value → TemplateTask τ} (hf : ∀ v, (f v).Matches (f' v)) :
    (e.use vars f).Matches (e.use vars f') := by
  unfold use
  cases e.eval vars with
  | ok v => exact hf v
  | error u => exact .done _

mutual

theorem TemplatePiece.render_matches (hpart : ∀ file, (part file).Matches (part' file)) :
    ∀ p : TemplatePiece, (p.render part vars).Matches (p.render part' vars)
  | .text t => by rw [render, render]; exact .done _
  | .value e => by
      rw [render, render]
      exact TemplateExpression.use_matches fun v => .done _
  | .branch condition yes no => by
      rw [render, render]
      refine TemplateExpression.use_matches fun v => ?_
      cases v.isTruthy with
      | true => exact renderAll_matches hpart yes
      | false => exact renderAll_matches hpart no
  | .part file => by rw [render, render]; exact hpart file

theorem TemplatePiece.renderAll_matches (hpart : ∀ file, (part file).Matches (part' file)) :
    ∀ ps : List TemplatePiece,
      (TemplatePiece.renderAll part vars ps).Matches (TemplatePiece.renderAll part' vars ps)
  | [] => by rw [renderAll, renderAll]; exact .done _
  | p :: ps => by
      rw [renderAll, renderAll]
      exact .andThen (render_matches hpart p) fun t =>
        .andThen (renderAll_matches hpart ps) fun u => .done _

end

namespace TemplateEngine

theorem renderNested_matches (vars : Bindings) (depth : Nat) (file : Text) (t : Template) :
    (renderNested vars depth file t : TemplateTask σ).Matches
      (renderNested vars depth file t : TemplateTask τ) := by
  induction depth generalizing file t with
  | zero => exact .done _
  | succ depth ih =>
      refine TemplatePiece.renderAll_matches (fun file => .read file fun r => ?_) t
      cases r >>= Template.ofText with
      | ok u => exact ih file u
      | error f => exact .done _

theorem standardTask_matches (file : Text) (t : Template) (vars : Bindings) :
    (standardTask file t vars : TemplateTask σ).Matches
      (standardTask file t vars : TemplateTask τ) := by
  unfold standardTask
  split
  next => exact .done _
  next => exact renderNested_matches vars depthLimit file t

/-- **The standard engine renders the same** in any two states in which there are the same texts, and
does no more than to tell so. -/
theorem render_standard {source : Text → Step σ RenderFault Text}
    {source' : Text → Step τ RenderFault Text} {texts : Text → Except RenderFault Text}
    {tell : Event → σ → σ} {tell' : Event → τ → τ} {s : σ} {s' : τ} {template : Text} {e : Event}
    (he : e = .templateRendering (templateFile template))
    (hs : Reads source texts s) (htold : Reads source texts (tell e s))
    (hs' : Reads source' texts s') (htold' : Reads source' texts (tell' e s')) (vars : Bindings) :
    ∃ (isTold : Bool) (r : Except RenderError Text),
      standard.render source tell template vars s = ⟨if isTold then tell e s else s, r⟩
        ∧ standard.render source' tell' template vars s'
          = ⟨if isTold then tell' e s' else s', r⟩ := by
  subst he
  cases htext : texts (templateFile template) >>= Template.ofText with
  | error f =>
      have hfault {σ : Type} : texts (templateFile template)
          >>= (standard (σ := σ)).compile (templateFile template) = .error f := by
        cases hread : texts (templateFile template) with
        | error f' => rw [hread] at htext; cases htext; rfl
        | ok text =>
            have ht : Template.ofText text = .error f := by rw [hread] at htext; exact htext
            show (standard (σ := σ)).compile (templateFile template) text = _
            rw [compile_standard, ht]
            rfl
      refine ⟨false, .error ⟨template, f.beforeRendering⟩, ?_, ?_⟩
      · rw [render_of_error (f := f) (by rw [hs]; exact hfault), hs]
        rfl
      · rw [render_of_error (f := f) (by rw [hs']; exact hfault), hs']
        rfl
  | ok t =>
      obtain ⟨text, hread, ht⟩ := bind_eq_ok_iff.mp htext
      obtain ⟨r, hr, hr'⟩ := (standardTask_matches (σ := σ) (τ := τ) (templateFile template) t
        vars).run htold htold'
      refine ⟨true, r.mapError fun f => ⟨template, f.whileRendering⟩, ?_, ?_⟩
      · rw [render_of_ok (by rw [hs]; exact hread) (compile_standard_of_ok ht _), hs,
          Step.mapError_apply, hr]
        rfl
      · rw [render_of_ok (by rw [hs']; exact hread) (compile_standard_of_ok ht _), hs',
          Step.mapError_apply, hr']
        rfl

end TemplateEngine

end Rendering

end TestSkeleton
