import TestSkeleton.Annotation.ConstructorArguments
import TestSkeleton.Assertion.Basic
import TestSkeleton.Calendar
import TestSkeleton.ClassInfo.Basic
import TestSkeleton.Event
import TestSkeleton.MethodName
import TestSkeleton.Template.Basic

set_option autoImplicit false

/-! # Test classes

The tests of a class are planned before they are rendered. The plan holds, in the order of the
class, one test for each tag of an eligible method and one placeholder for each eligible method
without tags, and a stop where a doc comment or a tag is in error. Rendering goes through the plan
in the same order, up to the first stop, and puts the placeholders behind the other tests.

A renderer can be a function of what it is asked for, or it can act on a state. The same steps are
gone through with either.
-/

namespace TestSkeleton

open Text

/-- The version that generated tests are marked with. -/
def version : Text := "0.1.0"

/-- What a template is to be rendered with. -/
structure RenderRequest where
  template : TemplateKind
  inputs : List (Text × Text)
deriving DecidableEq, Repr

/-- A renderer answers requests. -/
abbrev Renderer (ε : Type) := RenderRequest → Logged ε Text

/-- A renderer that acts on a state while it answers. -/
abbrev StatefulRenderer (σ ε : Type) := RenderRequest → Step σ ε Text

/-- The inputs of a request as the values that a template takes. -/
def RenderRequest.bindings (r : RenderRequest) : Bindings :=
  r.inputs.map fun v => (v.1, .str v.2)

/-! ## The plan -/

/-- A test method to be rendered. -/
structure PlannedMethod where
  name : Text
  source : Method
  /-- The preface and the assertion of a tag; nothing for a placeholder. -/
  test : Option (Text × Assertion)
deriving DecidableEq, Repr

/-- What the template of a test method is rendered with. -/
def PlannedMethod.request (className : Text) (m : PlannedMethod) : RenderRequest :=
  let names : List (Text × Text) :=
    [("className", className), ("origMethodName", m.source.name), ("methodName", m.name)]
  match m.test with
  | some (preface, a) =>
    ⟨a.template, ("preface", preface) :: ("arguments", a.arguments) :: ("assertion", a.kind.name)
      :: ("expected", a.expected) :: names⟩
  | none => ⟨.incomplete, names⟩

/-- Why a plan stops. -/
inductive PlanError where
  | missingExpression (e : Annotation.MissingExpression)
  | assertion (e : AssertionError)
deriving DecidableEq, Repr

/-- The message of the error. -/
def PlanError.message : PlanError → Text
  | missingExpression e => e.message
  | assertion e => e.message

/-- A step of a plan. -/
inductive PlanStep where
  | tell (e : Event)
  | method (m : PlannedMethod)
  | stop (e : PlanError)
deriving DecidableEq, Repr

namespace PlanStep

/-- The steps for the tags of a method, up to the first stop. -/
def ofTags (m : Method) : MethodNamer → List Annotation.Tag → List PlanStep × MethodNamer
  | namer, [] => ([], namer)
  | namer, tag :: tags =>
    match Assertion.ofTag tag m.isStatic with
    | .error e => ([.stop (.assertion e)], namer)
    | .ok a =>
      let (name, namer) := namer.name m.name
      let (steps, namer) := ofTags m namer tags
      (.tell (.methodRendering name a.template)
        :: .method ⟨name, m, some (tag.prefaceText, a)⟩ :: steps, namer)

/-- The steps for a method. -/
def ofMethod (className : Text) (namer : MethodNamer) (m : Method) : List PlanStep × MethodNamer :=
  match Annotation.extract m.doc with
  | .error e => ([.stop (.missingExpression e)], namer)
  | .ok tags =>
    let found : PlanStep := .tell (.tagsFound tags.length className m.name)
    match tags with
    | [] =>
      let (name, namer) := namer.name m.name
      ([found, .method ⟨name, m, none⟩], namer)
    | tags =>
      let (steps, namer) := ofTags m namer tags
      (found :: steps, namer)

/-- The steps for methods in order. -/
def ofMethods (className : Text) : MethodNamer → List Method → List PlanStep
  | _, [] => []
  | namer, m :: ms =>
    let (steps, namer) := ofMethod className namer m
    steps ++ ofMethods className namer ms

/-- The steps for a class. -/
def ofClass (c : ClassInfo) : List PlanStep :=
  .tell (.methodsCounted c.name c.eligible.length c.methods.length)
    :: ofMethods c.name .empty c.eligible

end PlanStep

/-! ## Rendering -/

/-- A rendered test method. -/
structure GeneratedMethod where
  name : Text
  body : Text
  source : Method
  /-- The assertion of the test; nothing for a placeholder. -/
  assertion : Option Assertion
deriving DecidableEq, Repr

/-- Whether the method is a placeholder. -/
def GeneratedMethod.isIncomplete (m : GeneratedMethod) : Bool := m.assertion.isNone

/-- The test method of a plan with its body. -/
def PlannedMethod.withBody (m : PlannedMethod) (body : Text) : GeneratedMethod :=
  ⟨m.name, body, m.source, m.test.map Prod.snd⟩

/-- Why no tests were generated. -/
inductive BuildError (ε : Type) where
  /-- Nothing is known about the class, or not even its name. -/
  | unavailable
  | plan (e : PlanError)
  | render (e : ε)

/-- Goes through the steps of a plan up to the first error. -/
def PlanStep.run {ε : Type} (className : Text) (render : Renderer ε) :
    List PlanStep → Logged (BuildError ε) (List GeneratedMethod)
  | [] => return []
  | .tell e :: steps => .after [e] (run className render steps)
  | .stop e :: _ => .fail (.plan e)
  | .method m :: steps => do
    let body ← (render (m.request className)).mapError .render
    let ms ← run className render steps
    return m.withBody body :: ms

/-- Goes through the steps of a plan with a renderer that acts on a state. `tell` tells of events. -/
def PlanStep.runWith {σ ε : Type} (tell : Event → σ → σ) (className : Text)
    (render : StatefulRenderer σ ε) :
    List PlanStep → Step σ (BuildError ε) (List GeneratedMethod)
  | [] => return []
  | .tell e :: steps => do
    Step.change (tell e)
    runWith tell className render steps
  | .stop e :: _ => .fail (.plan e)
  | .method m :: steps => do
    let body ← (render (m.request className)).mapError .render
    let ms ← runWith tell className render steps
    return m.withBody body :: ms

/-- A test class with rendered methods. -/
structure GeneratedClass where
  className : Text
  testClassName : Text
  /-- The import of the class under test with line feeds around it, empty if its module is
  unknown. -/
  namespaceDeclaration : Text
  constructorArguments : Text
  methods : List GeneratedMethod
  date : Text
  time : Text
  version : Text
deriving DecidableEq, Repr

namespace GeneratedClass

/-- The methods with assertions. -/
def assertionMethods (g : GeneratedClass) : List GeneratedMethod :=
  g.methods.filter (!·.isIncomplete)

/-- The placeholders. -/
def incompleteMethods (g : GeneratedClass) : List GeneratedMethod :=
  g.methods.filter (·.isIncomplete)

/-- The bodies of the methods one after the other, without blank space at the end. -/
def methodsSource (g : GeneratedClass) : Text := stripEnd (g.methods.flatMap (·.body))

/-- What the template of the class is rendered with. -/
def request (g : GeneratedClass) : RenderRequest :=
  ⟨.testClass, [
    ("namespace_declaration", g.namespaceDeclaration),
    ("className", g.className),
    ("testClassName", g.testClassName),
    ("constructorArgs", g.constructorArguments),
    ("methods", g.methodsSource),
    ("date", g.date),
    ("time", g.time),
    ("version", g.version)]⟩

/-- What can be chosen about a test class. -/
structure Options where
  /-- The name of the test class, if it is not to be made from the name of the class under test. -/
  testClassName : Option Text := none
  /-- When the tests are generated. -/
  timestamp : Moment

/-- The name of the test class. An empty choice counts as none. -/
def Options.nameFor (o : Options) (className : Text) : Text :=
  match o.testClassName with
  | some (c :: t) => c :: t
  | _ => className ++ "Test"

/-- The import of a class from its module, if that is known. -/
def importOf (c : ClassInfo) : Text :=
  match c.module? with
  | some module@(_ :: _) => "\nfrom " ++ module ++ " import " ++ c.name ++ ['\n']
  | _ => []

/-- The test class of rendered methods, placeholders last. -/
def ofMethods (c : ClassInfo) (o : Options) (methods : List GeneratedMethod) : GeneratedClass where
  className := c.name
  testClassName := o.nameFor c.name
  namespaceDeclaration := importOf c
  constructorArguments := Annotation.constructorArguments c.doc
  methods := methods.filter (!·.isIncomplete) ++ methods.filter (·.isIncomplete)
  date := o.timestamp.date.hyphenated 1
  time := o.timestamp.clock
  version := TestSkeleton.version

/-- Generates the test class of a class. -/
def build {ε : Type} (render : Renderer ε) (c? : Option ClassInfo) (o : Options) :
    Logged (BuildError ε) GeneratedClass :=
  match c? with
  | none => .fail .unavailable
  | some c =>
    if c.name.isEmpty then .fail .unavailable
    else do
      let methods ← PlanStep.run c.name render (PlanStep.ofClass c)
      return ofMethods c o methods

/-- Generates the module with the test class of a class. -/
def generate {ε : Type} (render : Renderer ε) (c? : Option ClassInfo) (o : Options) :
    Logged (BuildError ε) Text := do
  let g ← build render c? o
  (render g.request).mapError .render

section Stateful

variable {σ ε : Type} (tell : Event → σ → σ) (render : StatefulRenderer σ ε)

/-- Generates the test class of a class with a renderer that acts on a state. -/
def buildWith (c? : Option ClassInfo) (o : Options) : Step σ (BuildError ε) GeneratedClass :=
  match c? with
  | none => .fail .unavailable
  | some c =>
    if c.name.isEmpty then .fail .unavailable
    else do
      let methods ← PlanStep.runWith tell c.name render (PlanStep.ofClass c)
      return ofMethods c o methods

/-- Generates the module with the test class of a class with a renderer that acts on a state. -/
def generateWith (c? : Option ClassInfo) (o : Options) : Step σ (BuildError ε) Text := do
  let g ← buildWith tell render c? o
  (render g.request).mapError .render

end Stateful

end GeneratedClass

end TestSkeleton
