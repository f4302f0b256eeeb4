import Mathlib.Data.List.Basic
import TestSkeleton.Proofs.Text.Normal
import TestSkeleton.Template.Basic

set_option autoImplicit false

/-! # Rendering piece by piece

A template is rendered with the values of its own names, each of which stands for all names of the
same meaning. If the names are ASCII, these are just the values that were given
(`render_eq_renderAll`), and the text of a template is that of its parts one after the other
(`renderAll_append_of_ok`).
-/

namespace TestSkeleton

open Text TemplatePiece

/-! ## Tasks one after the other -/

namespace TemplateTask

variable {σ : Type}

theorem andThen_text (x : TemplateTask σ) : (x.andThen fun t => .text t) = x := by
  induction x with
  | done r => cases r <;> rfl
  | read file next ih => exact congrArg (TemplateTask.read file) (funext ih)
  | act change next ih => exact congrArg (TemplateTask.act change) (funext ih)

theorem andThen_assoc (x : TemplateTask σ) (f g : Text → TemplateTask σ) :
    (x.andThen f).andThen g = x.andThen fun t => (f t).andThen g := by
  induction x with
  | done r => cases r <;> rfl
  | read file next ih => exact congrArg (TemplateTask.read file) (funext ih)
  | act change next ih => exact congrArg (TemplateTask.act change) (funext ih)

end TemplateTask

/-! ## What matters about the values -/

theorem TemplateExpression.eval_congr {vars vars' : Bindings} {e : TemplateExpression}
    (h : ∀ n ∈ e.names, vars.lookup n = vars'.lookup n) : e.eval vars = e.eval vars' := by
  induction e with
  | name n => rw [eval, eval, h n List.mem_cons_self]
  | constant v => rfl
  | not e ih => rw [eval, eval, ih h]
  | and e f ihe ihf | or e f ihe ihf =>
      have he := ihe fun n hn => h n (List.mem_append_left _ hn)
      have hf := ihf fun n hn => h n (List.mem_append_right _ hn)
      rw [eval, eval, he, hf]

theorem TemplateExpression.use_congr {σ : Type} {vars vars' : Bindings} {e : TemplateExpression}
    {f f' : Value → TemplateTask σ} (h : ∀ n ∈ e.names, vars.lookup n = vars'.lookup n)
    (hf : ∀ v, f v = f' v) : e.use vars f = e.use vars' f' := by
  rw [use, use, eval_congr h]
  cases e.eval vars' with
  | ok v => exact hf v
  | error u => rfl

namespace TemplatePiece

variable {σ : Type} {part : Text → TemplateTask σ}

mutual

theorem render_congr {vars vars' : Bindings} :
    ∀ p : TemplatePiece, (∀ n ∈ p.names, vars.lookup n = vars'.lookup n) →
      p.render part vars = p.render part vars'
  | text t, _ => by rw [render, render]
  | value e, h => by
      rw [names] at h
      rw [render, render, TemplateExpression.use_congr h fun _ => rfl]
  | branch condition yes no, h => by
      rw [names] at h
      have hyes := renderAll_congr yes fun n hn =>
        h n (List.mem_append_left _ (List.mem_append_right _ hn))
      have hno := renderAll_congr no fun n hn => h n (List.mem_append_right _ hn)
      rw [render, render]
      refine TemplateExpression.use_congr (fun n hn => ?_) fun v => ?_
      · exact h n (List.mem_append_left _ (List.mem_append_left _ hn))
      · rw [hyes, hno]
  | .part file, _ => by rw [render, render]

/-- **Only the values of the names that occur matter.** -/
theorem renderAll_congr {vars vars' : Bindings} :
    ∀ ps : List TemplatePiece, (∀ n ∈ namesOfAll ps, vars.lookup n = vars'.lookup n) →
      renderAll part vars ps = renderAll part vars' ps
  | [], _ => by rw [renderAll, renderAll]
  | p :: ps, h => by
      rw [namesOfAll] at h
      have hp := render_congr p fun n hn => h n (List.mem_append_left _ hn)
      have hps := renderAll_congr ps fun n hn => h n (List.mem_append_right _ hn)
      rw [renderAll, renderAll, hp, hps]

end

end TemplatePiece

/-! ## The values of names -/

/-- The names in the template are ASCII. -/
def Template.HasAsciiNames (t : Template) : Prop := ∀ n ∈ t.names, IsAscii n

instance (t : Template) : Decidable t.HasAsciiNames := List.decidableBAll _ t.names

theorem lookup_filterMap (f : Text → Option Value) (ns : List Text) (n : Text) :
    (ns.filterMap fun m => (f m).map fun v => (m, v)).lookup n
      = if n ∈ ns then f n else none := by
  induction ns with
  | nil => rfl
  | cons m ns ih =>
      rw [List.filterMap_cons]
      by_cases hm : n = m
      · subst hm
        cases hf : f n with
        | none => simp [ih, hf]
        | some v => simp
      · have hbeq : (n == m) = false := beq_eq_false_iff_ne.mpr hm
        cases f m <;> simp [ih, hm, hbeq, List.lookup_cons]

namespace Template

variable {t : Template} {vars : Bindings}

theorem find?_sameMeaning (h : t.HasAsciiNames) {n : Text} (hn : n ∈ t.names) :
    t.names.reverse.find? (sameMeaning n) = some n := by
  cases hfind : t.names.reverse.find? (sameMeaning n) with
  | none =>
      have hself := List.find?_eq_none.mp hfind n (List.mem_reverse.mpr hn)
      exact absurd ((sameMeaning_iff_of_isAscii (h n hn) (h n hn)).mpr rfl) hself
  | some m =>
      have hm := List.mem_reverse.mp (List.mem_of_find?_eq_some hfind)
      have hsame := List.find?_some hfind
      rw [(sameMeaning_iff_of_isAscii (h n hn) (h m hm)).mp hsame]

/-- An ASCII name has the value that is given for it. -/
theorem lookup_bindings (h : t.HasAsciiNames) {n : Text} (hn : n ∈ t.names) :
    (t.bindings vars).lookup n = vars.lookup n := by
  have hbindings : t.bindings vars
      = t.names.reverse.filterMap fun m => (vars.lookup m).map fun v => (m, v) := by
    refine List.filterMap_congr fun m hm => ?_
    rw [find?_sameMeaning h (List.mem_reverse.mp hm)]
    rfl
  rw [hbindings, lookup_filterMap, if_pos (List.mem_reverse.mpr hn)]

/-- **A template with ASCII names is rendered with the given values.** -/
theorem render_eq_renderAll {σ : Type} {part : Text → TemplateTask σ} (h : t.HasAsciiNames) :
    t.render part vars = renderAll part vars t :=
  renderAll_congr t fun _ hn => lookup_bindings h (List.mem_eraseDups.mpr hn)

end Template

/-! ## Parts one after the other -/

/-- The name has a text as its value. -/
def Bindings.IsText (vars : Bindings) (n t : Text) : Prop := vars.lookup n = some (.str t)

namespace TemplatePiece

variable {σ : Type} {part : Text → TemplateTask σ} {vars : Bindings} {ps qs : List TemplatePiece}
  {t u : Text}

theorem renderAll_nil : renderAll part vars [] = .text [] := by rw [renderAll]

theorem renderAll_text_cons (h : renderAll part vars ps = .text u) :
    renderAll part vars (text t :: ps) = .text (t ++ u) := by
  rw [renderAll, h, render]
  rfl

/-- A value that is a text is shown as it is, whatever it looks like. -/
theorem renderAll_name_cons {n : Text} (hn : vars.IsText n t)
    (h : renderAll part vars ps = .text u) :
    renderAll part vars (value (.name n) :: ps) = .text (t ++ u) := by
  rw [Bindings.IsText] at hn
  rw [renderAll, h, render, TemplateExpression.use, TemplateExpression.eval, hn]
  rfl

theorem renderAll_text : renderAll part vars [text t] = .text t := by
  rw [renderAll_text_cons renderAll_nil, List.append_nil]

theorem renderAll_text_name_cons {n s : Text} (hn : vars.IsText n t)
    (h : renderAll part vars ps = .text u) :
    renderAll part vars (text s :: value (.name n) :: ps) = .text (s ++ (t ++ u)) :=
  renderAll_text_cons (renderAll_name_cons hn h)

/-- A part that depends on a text is there just if the text is not empty. -/
theorem renderAll_branch_cons {n v : Text} {yes no : List TemplatePiece}
    (hn : vars.IsText n v) {y z : Text} (hyes : renderAll part vars yes = .text y)
    (hno : renderAll part vars no = .text z) (h : renderAll part vars ps = .text u) :
    renderAll part vars (branch (.name n) yes no :: ps)
      = .text ((if v.isEmpty then z else y) ++ u) := by
  have hbranch : (branch (.name n) yes no).render part vars
      = .text (if v.isEmpty then z else y) := by
    rw [Bindings.IsText] at hn
    rw [render, TemplateExpression.use, TemplateExpression.eval, hn]
    show (if (Value.str v).isTruthy then renderAll part vars yes else renderAll part vars no) = _
    rw [hyes, hno]
    cases v <;> rfl
  rw [renderAll, hbranch, h]
  rfl

/-- **Pieces are rendered one after the other.** -/
theorem renderAll_append : renderAll part vars (ps ++ qs)
    = (renderAll part vars ps).andThen fun t =>
        (renderAll part vars qs).andThen fun u => .text (t ++ u) := by
  induction ps with
  | nil =>
      rw [List.nil_append, renderAll]
      exact (TemplateTask.andThen_text _).symm
  | cons p ps ih =>
      rw [List.cons_append, renderAll, renderAll, ih]
      simp only [TemplateTask.andThen_assoc, TemplateTask.andThen, List.append_assoc]

theorem renderAll_append_of_ok (hp : renderAll part vars ps = .text t)
    (hq : renderAll part vars qs = .text u) : renderAll part vars (ps ++ qs) = .text (t ++ u) := by
  rw [renderAll_append, hp, hq]
  rfl

end TemplatePiece

end TestSkeleton
