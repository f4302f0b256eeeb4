import TestSkeleton.Event
import TestSkeleton.File.System
import TestSkeleton.Template.Packaged
import TestSkeleton.Template.Reading

set_option autoImplicit false

/-! # Template libraries

Templates are looked up by name, first among files of the user's own and then among the packaged
ones. The name may be a path, of which empty names and points are dropped; a path that leads
upwards finds nothing.

What makes texts of templates is an engine. It turns the text of a template into a task, which can
read further templates and act on what there is outside of the program. The standard engine knows a
part of the language only, and does not act.
-/

namespace TestSkeleton

open Text

/-- A collection of templates that go before the packaged ones: the bytes of the file with given
names on the way to it. -/
structure TemplateLibrary where
  own : List Text → Option (List UInt8)

/-- A fault and the template that it was met in. -/
structure RenderError where
  template : Text
  fault : RenderFault
deriving DecidableEq, Repr

/-- The name of the file of a template. -/
def templateFile (template : Text) : Text := template ++ ".py.j2"

/-- The message of the error. -/
def RenderError.message (e : RenderError) : Text :=
  let file := templateFile e.template
  match e.fault with
  | .notFound => "Template not found: " ++ file
  | .undefined reason => "Error rendering " ++ file ++ ": " ++ reason
  | .undecodable => "Cannot decode " ++ file
  | .malformed => "Malformed template " ++ file
  | .unknown => "Unknown parts of " ++ file
  | .reservedName => "Reserved name among the variables of " ++ file
  | .partNotFound => "Part not found of " ++ file
  | .raised _ => "Exception in " ++ file

namespace TemplateLibrary

/-- The library without files of its own. -/
def packaged : TemplateLibrary := ⟨fun _ => none⟩

/-- The library of the files in a directory. -/
def ofDirectory (fs : FileSystem) (directory : FilePath) : TemplateLibrary :=
  ⟨fun names => (fs.read (joinWith ['/'] (directory.toText :: names))).toOption⟩

/-- The names on the way to a template, unless the path leads upwards. -/
def names? (file : Text) : Option (List Text) :=
  let names := splitOn '/' file
  if names.elem ['.', '.'] then none else some (names.filter fun n => !(n.isEmpty || n == ['.']))

/-- The packaged template in a file. -/
def packagedText? : List Text → Option Text
  | [file] =>
    (TemplateKind.all.find? fun k => templateFile k.name == file).map fun k => k.packagedText
  | _ => none

/-- The text of a template. -/
def source (l : TemplateLibrary) (file : Text) : Except RenderFault Text :=
  match names? file with
  | none => .error .notFound
  | some names =>
    match l.own names with
    | some bytes =>
      match String.fromUTF8? ⟨bytes.toArray⟩ with
      | some t => .ok t
      | none => .error .undecodable
    | none =>
      match packagedText? names with
      | some t => .ok t
      | none => .error .notFound

end TemplateLibrary

/-! ## Engines -/

/-- What makes tasks of templates: the one to render the text in a file with some values. `σ` is
what there is outside of the program. -/
structure TemplateEngine (σ : Type) where
  compile (file text : Text) : Except RenderFault (Bindings → TemplateTask σ)

namespace RenderFault

/-- A fault as it is met on the way to a template. There the program waits for no undefined names. -/
def beforeRendering : RenderFault → RenderFault
  | undefined _ => .raised (.other "UndefinedError")
  | f => f

/-- A fault as it is met inside of a template. There the program waits for no missing templates. -/
def whileRendering : RenderFault → RenderFault
  | notFound => .partNotFound
  | f => f

end RenderFault

namespace TemplateEngine

variable {σ : Type}

/-- Finds a template of this name, tells so, and renders it. -/
def render (engine : TemplateEngine σ) (source : Text → Step σ RenderFault Text)
    (tell : Event → σ → σ) (template : Text) (vars : Bindings) : Step σ RenderError Text := do
  let file := templateFile template
  let compiled : Step σ RenderFault (Bindings → TemplateTask σ) := do
    .ofExcept (engine.compile file (← source file))
  let task ← compiled.mapError fun f => RenderError.mk template f.beforeRendering
  Step.change (tell (.templateRendering file))
  ((task vars).run source).mapError fun f => ⟨template, f.whileRendering⟩

/-- The name that stands for the template itself. -/
def ownName : Text := "self"

/-- A class of this name, as a value. -/
def classNamed (name : Text) : Value := .type (.builtin name) name

/-- The values that names have in all templates, unless there is a variable of the name. -/
def globals : Bindings := [
  ("range", classNamed "range"),
  ("dict", classNamed "dict"),
  ("lipsum", .str "<function generate_lorem_ipsum>"),
  ("cycler", classNamed "jinja2.utils.Cycler"),
  ("joiner", classNamed "jinja2.utils.Joiner"),
  ("namespace", classNamed "jinja2.utils.Namespace")]

/-- What the own name prints. -/
def ownText (file : Text) : Text := "<TemplateReference " ++ file.quoted ++ ['>']

/-- The values of names in the template in a file. -/
def valuesIn (file : Text) (vars : Bindings) : Bindings :=
  vars ++ (ownName, .str (ownText file)) :: globals

/-- Renders a template. Inside of it are templates in other files, which have the same variables, and
of which no more than `depth` may be inside of each other. -/
def renderNested (vars : Bindings) : (depth : Nat) → (file : Text) → Template → TemplateTask σ
  | 0, _, _ => .fail (.raised (.other "RecursionError"))
  | depth + 1, file, t =>
    let part (file : Text) : TemplateTask σ := .read file fun r =>
      match r >>= Template.ofText with
      | .ok u => renderNested vars depth file u
      | .error f => .fail f
    t.render part (valuesIn file vars)

/-- How many templates may be inside of each other. -/
def depthLimit : Nat := 1000

/-- The engine for the part of the language that is known here. -/
def standard : TemplateEngine σ where
  compile file text := do
    let t ← Template.ofText text
    return fun vars =>
      if (vars.lookup ownName).isSome then .fail .reservedName
      else renderNested vars depthLimit file t

end TemplateEngine

/-- Renders a template of a library. -/
def TemplateLibrary.render (l : TemplateLibrary) (template : Text) (vars : Bindings) :
    Logged RenderError Text :=
  let source (file : Text) : Step (List Event) RenderFault Text := .ofExcept (l.source file)
  let o := TemplateEngine.standard.render source (fun e es => es ++ [e]) template vars []
  ⟨o.state, o.result⟩

end TestSkeleton
