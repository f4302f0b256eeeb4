import TestSkeleton.ClassInfo.Description
import TestSkeleton.CommandLine.Request
import TestSkeleton.Template.Library
import TestSkeleton.TestClass
import TestSkeleton.Text.Terminal

set_option autoImplicit false

/-! # Runs of the program

A run goes from the arguments to what is shown, what is in the files afterwards, and the exit
status. All tests are generated before anything is shown or written, so a run that fails before
that shows nothing but messages and leaves the files alone. Only code of others, which is carried out
to load a class and to render templates, can do more before.

The exit status is zero for success, one for an annotation in error, and two for every other
failure that the program foresees. It does not foresee all: a run can also break off with the
cause, or be ended by code of others.

Runs are on a `Platform`, which says what code of others does. A `World` is a platform on which all
such code is known.
-/

namespace TestSkeleton

open Text

/-- What carries out code of others: the modules of classes, and templates. Such code can do what it
likes to the machine, except that it leaves the program itself as it is. -/
structure Platform (μ : Type) where
  interpreter : Interpreter (Machine μ)
  engine : TemplateEngine (Machine μ)

/-- The templates in a directory, if there is one, before the packaged ones. -/
def TemplateLibrary.inFiles (fs : FileSystem) : Option Text → TemplateLibrary
  | some directory => .ofDirectory fs (.ofText directory)
  | none => .packaged

/-- Renders with the templates of a library. -/
def TemplateLibrary.renderer (l : TemplateLibrary) : Renderer RenderError := fun r =>
  l.render r.template.name r.bindings

/-- Why a run does not come to its end. -/
inductive RunError where
  | description (e : DescriptionError)
  | load (e : LoadError)
  | build (e : BuildError RenderError)
  | source (e : SourceFault)
  | write (e : FileSystem.Failure)
  /-- A path among the arguments that no file can have. -/
  | unusablePath (e : FileSystem.Failure)

/-- A class, and how to find the file that its tests belong next to. -/
structure LoadedClass (σ : Type) where
  info : ClassInfo
  source : Step σ SourceFault (Option FilePath)

/-! ## Steps of a run -/

section Steps

variable {μ : Type} (p : Platform μ)

/-- The text of a template, as the files are at the time. -/
def templateSource (directory : Option Text) (file : Text) : Step (Machine μ) RenderFault Text :=
  fun s => ⟨s, (TemplateLibrary.inFiles s.files directory).source file⟩

/-- Renders with the templates in a directory, if there is one, before the packaged ones. -/
def Platform.renderer (directory : Option Text) : StatefulRenderer (Machine μ) RenderError := fun r =>
  p.engine.render (templateSource directory) Machine.tell r.template.name r.bindings

/-- Reads a description. -/
def readDescription (path : FilePath) : Step (Machine μ) DescriptionError ClassInfo := fun s =>
  (ClassInfo.ofFile s.files path).onMachine s

/-- Loads a class. -/
def ClassOrigin.loadOn : ClassOrigin → Step (Machine μ) RunError (LoadedClass (Machine μ))
  | .code r => do
    let c ← (p.interpreter.load r).mapError .load
    let info ← (p.interpreter.describe c r.module?).mapError .load
    let source := match r.sourceFile with
      | some path => pure (some path)
      | none => p.interpreter.sourceFile c
    return ⟨info, source⟩
  | .description path => do
    let info ← (readDescription path).mapError .description
    return ⟨info, pure (some path)⟩

namespace GenerationRequest

/-- Loads the class of a request and generates its tests. -/
def generateOn (g : GenerationRequest) :
    Step (Machine μ) RunError (LoadedClass (Machine μ) × Text) := do
  let c ← g.origin.loadOn p
  Step.change (Machine.tell (.generating c.info.name c.info.methods.length))
  let now ← Step.read Machine.now
  let text ← (GeneratedClass.generateWith Machine.tell (p.renderer g.templateDirectory)
    (some c.info) ⟨g.testClassName, now⟩).mapError .build
  return (c, text)

/-- Finds the path of the file to write. -/
def pathOn (g : GenerationRequest) (c : LoadedClass (Machine μ)) :
    Step (Machine μ) RunError FilePath :=
  match g.output with
  | some path => pure (.ofText path)
  | none => do
    let source ← c.source.mapError .source
    let path? ← Step.read fun s => TestFile.defaultPath? s.files c.info.name source
    Step.ofExcept (path?.mapError .unusablePath)

end GenerationRequest

end Steps

/-! ## Failures -/

/-- How a run ends. -/
inductive Ending where
  | exit (status : Nat)
  /-- Code of others ends the run with a status. -/
  | ended (status : Nat)
  /-- The run breaks off with an error that the program does not foresee. -/
  | broken (e : RunError)
  /-- It is not known here how the run ends. -/
  | unknown

/-- What comes of a run. -/
structure RunResult (μ : Type) extends Machine μ where
  ending : Ending

/-- What is shown of a text for which there is no terminal. -/
def shownText (t : Text) : Text := withoutControls t

/-- Lines that end in a line feed each. -/
def shownLines (ls : List Text) : Text := ls.flatMap fun l => shownText (l ++ ['\n'])

/-- The exit status for an annotation in error. -/
def RunError.annotationStatus : Nat := 1

/-- The exit status for another failure. -/
def RunError.failureStatus : Nat := 2

/-- How the program tells of an error: with an exit status and some lines. -/
def OwnError.notice (message : Text) : OwnError → Nat × List Text
  | validation errors =>
    (RunError.failureStatus, ("Metadata validation error: " ++ message)
      :: errors.map fun e => "  - " ++ e.1 ++ ": " ++ e.2)
  | loading => (RunError.failureStatus, ["Error loading class: " ++ message])
  | tag => (RunError.annotationStatus, ["Annotation error: " ++ message])
  | template => (RunError.failureStatus, ["Template error: " ++ message])

namespace RunError

/-- The error in words, for when a run breaks off. -/
def message : RunError → Text
  | description e => e.message
  | load e => e.message
  | build .unavailable => "No class metadata available"
  | build (.plan e) => e.message
  | build (.render e) => e.message
  | source .unavailable => "source code not available"
  | source (.raised e) => e.className
  | write e | unusablePath e => e.message

/-- The exception that code of others has raised, if that is the error. -/
def raised? : RunError → Option Raised
  | load (.raised e) | source (.raised e) => some e
  | build (.render e) =>
    match e.fault with
    | .raised e => some e
    | _ => none
  | _ => none

/-- Whether the error stands for something that is not known here. -/
def isUnknown : RunError → Bool
  | description .unknown | load (.raised .unknown) | source (.raised .unknown) => true
  | build (.render e) =>
    match e.fault with
    | .unknown | .raised .unknown => true
    | _ => false
  | _ => false

/-- The error as one of those that the program tells of, if it foresees it, and the error in words. An
exception of code of others counts as what it is. It is not caught any more when the file of the
class is looked for. -/
def foreseen? : RunError → Option (OwnError × Text)
  | description (.unforeseen _) | description .unknown => none
  | description e@(.invalidFields _ _ errors) =>
    some (.validation (errors.map fun f => (f.location, f.fault.message)), e.message)
  | description e => some (.loading, e.message)
  | load (.raised (.own e message)) => some (e, message)
  | load .docNotText | load .moduleNotText | load (.unreadableFile _) | load (.undecodable _)
  | load (.raised _) => none
  | load e => some (.loading, e.message)
  | build .unavailable => some (.loading, (build .unavailable).message)
  | build (.plan e) => some (.tag, e.message)
  | build (.render e) =>
    match e.fault with
    | .raised (.own own message) => some (own, message)
    | .notFound | .undefined _ => some (.template, e.message)
    | _ => none
  | source _ | write _ | unusablePath _ => none

variable {μ : Type}

/-- What comes of a run that fails with an error, which leaves the machine so. -/
def endRun (e : RunError) (s : Machine μ) : RunResult μ :=
  match e.foreseen? with
  | some (own, message) =>
    let notice := own.notice message
    { s.complain (shownLines notice.2) with ending := .exit notice.1 }
  | none =>
    match e.raised? with
    | some (.ending _ status message) => { s.complain message with ending := .ended status }
    | _ => { s with ending := if e.isUnknown then .unknown else .broken e }

end RunError

/-! ## Runs -/

section Runs

variable {μ : Type} (p : Platform μ)

/-- Writes generated tests to a file. -/
def writeTests (path : FilePath) (text : Text) : Step (Machine μ) RunError Unit := fun s =>
  let (result, files) := TestFile.write path text s.files
  ⟨{ s with files }, result.mapError .write⟩

/-- Hands generated tests over. -/
def GenerationRequest.emit (g : GenerationRequest) (c : LoadedClass (Machine μ)) (text : Text) :
    Step (Machine μ) RunError Unit :=
  match g.format with
  | .text => .change (Machine.write (shownText text))
  | .file => do
    let path ← g.pathOn c
    writeTests path text
    Step.change (Machine.tell (.fileWritten text.length path.toText))
    Step.change (Machine.write (shownLines ["Generated: " ++ path.toText]))

/-- Carries out a request to generate tests. -/
def GenerationRequest.runOn (g : GenerationRequest) (s : Machine μ) : RunResult μ :=
  let tests : Step (Machine μ) RunError Unit := do
    let (c, text) ← g.generateOn p
    g.emit c text
  let o := tests (s.setUp g.verbose)
  match o.result with
  | .ok () => { o.state with ending := .exit 0 }
  | .error e => e.endRun o.state

/-- Carries out a request. -/
def Request.runOn (s : Machine μ) : Request → RunResult μ
  | help page => { s.write (shownText page.help) with ending := .exit 0 }
  | version =>
    { s.write (shownLines [programName ++ ", version " ++ TestSkeleton.version]) with
      ending := .exit 0 }
  | generate g => g.runOn p s

/-- Runs the program. -/
def Platform.run (arguments : List Text) (s : Machine μ) : RunResult μ :=
  match Request.ofArguments s.files s.templateVariable arguments with
  | .ok r => r.runOn p s
  | .error (.unusablePath f) => { s with ending := .broken (.unusablePath f) }
  | .error (.usage page e) =>
    { s.complain (shownText (e.report page)) with ending := .exit RunError.failureStatus }

end Runs

/-! ## Known code -/

/-- What a run depends on besides its arguments, if all code of others is known. -/
structure World where
  /-- The files, and the code in them. -/
  code : CodeBase
  /-- The directory with templates that holds if none is given. -/
  templateVariable : Option Text := none
  now : Moment

namespace World

/-- The files before a run. -/
def files (w : World) : FileSystem := w.code.files

/-- The machine before a run. -/
def machine (w : World) : Machine Unit :=
  { files := w.files, templateVariable := w.templateVariable, now := w.now, memory := () }

/-- The platform with this code, and with the standard engine for templates. -/
def platform (w : World) : Platform Unit where
  interpreter := w.code.interpreter
  engine := .standard

/-- Runs the program. -/
def run (w : World) (arguments : List Text) : RunResult Unit := w.platform.run arguments w.machine

end World

/-- Carries out a request to generate tests. -/
def GenerationRequest.run (w : World) (g : GenerationRequest) : RunResult Unit :=
  g.runOn w.platform w.machine

end TestSkeleton
