import TestSkeleton.Raised
import TestSkeleton.Step
import TestSkeleton.Text.Normal
import TestSkeleton.Value.Printing

set_option autoImplicit false

/-! # Templates

A template is a text with places for values, for other templates and for parts that depend on
conditions. Rendering it is a task: on its way it reads the texts of other templates, and it fails as
soon as it needs a variable that is not defined. Names that mean the same are one variable, which has
the value of the last one of them to occur for the first time.
-/

namespace TestSkeleton

/-- The values of variables. -/
abbrev Bindings := List (Text × Value)

/-- An expression in a template. -/
inductive TemplateExpression where
  | name (n : Text)
  | constant (v : Value)
  | not (e : TemplateExpression)
  | and (e f : TemplateExpression)
  | or (e f : TemplateExpression)

/-- A variable without a value. -/
structure UndefinedVariable where
  name : Text
deriving DecidableEq, Repr

/-- The value of an expression. The second operand of `and` and `or` is looked at only if the first
does not decide. -/
def TemplateExpression.eval (vars : Bindings) : TemplateExpression → Except UndefinedVariable Value
  | name n => match vars.lookup n with
    | some v => .ok v
    | none => .error ⟨n⟩
  | constant v => .ok v
  | not e => do return .bool !(← e.eval vars).isTruthy
  | and e f => do
    let v ← e.eval vars
    if v.isTruthy then f.eval vars else return v
  | or e f => do
    let v ← e.eval vars
    if v.isTruthy then return v else f.eval vars

/-- A piece of a template. -/
inductive TemplatePiece where
  | text (t : Text)
  /-- The text of a value. -/
  | value (e : TemplateExpression)
  /-- The first pieces if the condition holds, else the second. -/
  | branch (condition : TemplateExpression) (yes no : List TemplatePiece)
  /-- The template in another file. -/
  | part (file : Text)

/-- A template is the list of its pieces. -/
abbrev Template := List TemplatePiece

/-! ## Tasks -/

/-- Why a template yields no text. -/
inductive RenderFault where
  | notFound
  | undecodable
  | malformed
  /-- The template uses more of its language than is known here. -/
  | unknown
  /-- Something is used that is not defined, as these words say. -/
  | undefined (reason : Text)
  /-- A variable has the name that stands for the template itself. -/
  | reservedName
  /-- A template that is needed inside of another one is not found. -/
  | partNotFound
  | raised (e : Raised)
deriving DecidableEq, Repr

/-- What rendering comes to, step by step. `σ` is what there is outside of the program. -/
inductive TemplateTask (σ : Type) where
  | done (r : Except RenderFault Text)
  /-- The text of a template is read. -/
  | read (file : Text) (next : Except RenderFault Text → TemplateTask σ)
  /-- What is outside is changed, and looked at. -/
  | act (change : σ → σ) (next : σ → TemplateTask σ)

namespace TemplateTask

variable {σ : Type}

/-- The task that comes to a text at once. -/
abbrev text (t : Text) : TemplateTask σ := done (.ok t)

/-- The task that fails at once. -/
abbrev fail (f : RenderFault) : TemplateTask σ := done (.error f)

/-- Goes on with the text, if there is one. -/
def andThen : TemplateTask σ → (Text → TemplateTask σ) → TemplateTask σ
  | done (.ok t), f => f t
  | done (.error e), _ => done (.error e)
  | read file next, f => read file fun r => (next r).andThen f
  | act change next, f => act change fun s => (next s).andThen f

/-- Carries a task out, where templates have their texts from `source`. -/
def run (source : Text → Step σ RenderFault Text) : TemplateTask σ → Step σ RenderFault Text
  | done r => .ofExcept r
  | read file next => fun s => (next (source file s).result).run source (source file s).state
  | act change next => fun s => (next s).run source (change s)

end TemplateTask

/-- The task to use a value, which fails if the value is that of a variable without one. -/
def TemplateExpression.use {σ : Type} (vars : Bindings) (e : TemplateExpression)
    (f : Value → TemplateTask σ) : TemplateTask σ :=
  match e.eval vars with
  | .ok v => f v
  | .error u => .fail (.undefined ('\'' :: u.name ++ "' is undefined".toList))

section Rendering

variable {σ : Type} (part : Text → TemplateTask σ) (vars : Bindings)

mutual

/-- Renders a piece, where `part` renders the templates in other files. -/
def TemplatePiece.render : TemplatePiece → TemplateTask σ
  | text t => .text t
  | value e => e.use vars fun v => .text v.shown
  | branch condition yes no =>
    condition.use vars fun v => if v.isTruthy then renderAll yes else renderAll no
  | .part file => part file

/-- Renders pieces one after the other. -/
def TemplatePiece.renderAll : List TemplatePiece → TemplateTask σ
  | [] => .text []
  | p :: ps => p.render.andThen fun t => (renderAll ps).andThen fun u => .text (t ++ u)

end

end Rendering

/-! ## Names -/

/-- The names in an expression, in order. -/
def TemplateExpression.names : TemplateExpression → List Text
  | name n => [n]
  | constant _ => []
  | not e => e.names
  | and e f | or e f => e.names ++ f.names

mutual

/-- The names in a piece, in order. -/
def TemplatePiece.names : TemplatePiece → List Text
  | text _ => []
  | value e => e.names
  | branch condition yes no => condition.names ++ namesOfAll yes ++ namesOfAll no
  | part _ => []

/-- The names in several pieces, in order. -/
def TemplatePiece.namesOfAll : List TemplatePiece → List Text
  | [] => []
  | p :: ps => p.names ++ namesOfAll ps

end

/-- The names in a template, each where it occurs for the first time. -/
def Template.names (t : Template) : List Text := (TemplatePiece.namesOfAll t).eraseDups

/-- The values of the names in a template: each has that of the last name of the same meaning. -/
def Template.bindings (t : Template) (vars : Bindings) : Bindings :=
  let names := t.names.reverse
  names.filterMap fun n =>
    (names.find? (Text.sameMeaning n)).bind fun m => (vars.lookup m).map fun v => (n, v)

/-- Renders a template. -/
def Template.render {σ : Type} (part : Text → TemplateTask σ) (t : Template) (vars : Bindings) :
    TemplateTask σ :=
  TemplatePiece.renderAll part (t.bindings vars) t

end TestSkeleton
