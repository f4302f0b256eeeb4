import TestSkeleton.ClassInfo.Reading
import TestSkeleton.Machine
import TestSkeleton.Source.Execution

set_option autoImplicit false

/-! # Loading classes

A class is loaded from a module that is imported by its name, or from a file that holds a module.
From a file one can also ask for the first class in it, whatever its name. The code of the module is
carried out on the way, and code of the class can be when the class is described; what such code does
to the machine is up to an interpreter. Of the interpreters, the one that goes by a `CodeBase` knows
the modules by their statements.
-/

namespace TestSkeleton

open Text

/-- Why a class could not be loaded. -/
inductive LoadError where
  | missingName
  | notDotted (className : Text)
  | moduleUnavailable (className module reason : Text)
  | noSuchClass (className member module : Text)
  | notAFile (path : Text)
  | unreadableFile (f : FileSystem.Failure)
  /-- The first class is asked for, and the file holds no text. -/
  | undecodable (path : Text)
  | unknownFormat (path : Text)
  | importFailed (path reason : Text)
  | noClass (path : Text)
  /-- What the class or one of its methods has as its doc comment is no text. -/
  | docNotText
  /-- What the class says to be its module is no text. -/
  | moduleNotText
  /-- An exception of the code that is carried out, which nobody catches. -/
  | raised (e : Raised)
deriving DecidableEq, Repr

namespace LoadError

/-- The message of the error. -/
def message : LoadError → Text
  | missingName => "Missing class name"
  | notDotted c =>
    '`' :: c ++ "` is not a dotted path; pass a source file or use package.module.Class".toList
  | moduleUnavailable _ module reason => "Cannot import module `" ++ module ++ "`: " ++ reason
  | noSuchClass _ member module =>
    "Could not find class `" ++ member ++ "` in `" ++ module ++ "`"
  | unreadableFile f => f.message
  | notAFile path => '`' :: path ++ "` is not a file".toList
  | undecodable path => '`' :: path ++ "` cannot be decoded".toList
  | unknownFormat path => "Cannot import `" ++ path ++ "`"
  | importFailed path reason => "Error importing `" ++ path ++ "`: " ++ reason
  | noClass path => "No class defined in `" ++ path ++ "`"
  | docNotText => "The doc comment of the class is no text"
  | moduleNotText => "The module of the class is no text"
  | raised e => e.className

/-- The class that the error is about, if it is told. -/
def className? : LoadError → Option Text
  | notDotted c | moduleUnavailable c .. | noSuchClass c .. => some c
  | _ => none

end LoadError

/-- A class to load, and the file that defines it if it is given. -/
structure ClassRequest where
  className : Text
  sourceFile : Option FilePath := none
deriving DecidableEq, Repr

/-! ## Describing classes -/

/-- The failure of a class that does not tell what is asked of it. -/
def LoadError.ofDescribing (f : Fault) : LoadError := .raised f.escaping

/-- Fails if a doc comment is no text. -/
def checkDoc : Option Text → Except LoadError Unit
  | some _ => .ok ()
  | none => .error .docNotText

/-- Fails if a method does not tell what is asked of it, or has no text as its doc comment. -/
def MethodAttribute.check (m : MethodAttribute) : Logged LoadError Unit :=
  .after m.events <|
    match m.fault? with
    | some f => .fail (.ofDescribing f)
    | none => .ofExcept (checkDoc m.doc)

/-- Fails at the first method that cannot be described. -/
def MethodAttribute.checkAll : List MethodAttribute → Logged LoadError Unit
  | [] => pure ()
  | m :: ms => do m.check; checkAll ms

/-- The description of a class. Its methods and the class itself have to tell their doc comments,
which have to be texts, and its module has to be a text, if no other one is given. -/
def SourceClass.describe? (c : SourceClass) (module? : Option Text) :
    Logged LoadError ClassInfo := do
  MethodAttribute.checkAll (c.foundMethods.map fun m => m.2.2)
  let doc ← c.doc.mapError LoadError.ofDescribing
  checkDoc doc
  if module?.isNone && c.importModule?.isNone then Logged.fail .moduleNotText
  else return c.describe module?

/-- The module that a class is to be imported from, if it comes from a file: the one of that name. -/
def ClassRequest.module? (r : ClassRequest) : Option Text := r.sourceFile.map FilePath.stem

/-! ## Interpreters -/

/-- Why the code in a file is not carried out to its end. -/
inductive FileImportFault where
  /-- There is no way to carry out files of this kind. -/
  | noLoader
  /-- An exception that is meant to be caught, with its text. -/
  | failed (reason : Text)
  /-- An exception that is not, or whose text cannot be told, or that is raised before the code is
  carried out. -/
  | raised (e : Raised)
deriving DecidableEq, Repr

/-- Why a module cannot be imported by its name. -/
inductive ModuleImportFault where
  /-- An exception that says that a module cannot be had, with its text. -/
  | unavailable (reason : Text)
  | raised (e : Raised)
deriving DecidableEq, Repr

/-- Why the file that defines a class is not told. -/
inductive SourceFault where
  | unavailable
  | raised (e : Raised)
deriving DecidableEq, Repr

/-- The failure to load a class from the file of this name. -/
def LoadError.ofFile (file : Text) : FileImportFault → LoadError
  | .noLoader => .unknownFormat file
  | .failed reason => .importFailed file reason
  | .raised e => .raised e

/-- The failure to load a class from the module of this name. -/
def LoadError.ofModule (className module : Text) : ModuleImportFault → LoadError
  | .unavailable reason => .moduleUnavailable className module reason
  | .raised e => .raised e

/-- What carries out code of others on a machine with these states. -/
structure Interpreter (σ : Type) where
  /-- A module that was carried out. -/
  Module : Type
  /-- A class. -/
  Class : Type
  /-- Carries out the code in a file as a module of a name. -/
  importFile (module : Text) (path : FilePath) : Step σ FileImportFault Module
  /-- Gets a module by its name, and carries it out if that was not done before. -/
  importModule (module : Text) : Step σ ModuleImportFault Module
  /-- What a module has under a name, if it is a class. -/
  classIn (m : Module) (name : Text) : Step σ Raised (Option Class)
  /-- The name that a module says to have. -/
  nameOf (m : Module) : Step σ Raised Text
  /-- The qualified name that a class says to have. -/
  titleOf (c : Class) : Step σ Raised Text
  /-- Describes a class. -/
  describe (c : Class) (module? : Option Text) : Step σ LoadError ClassInfo
  /-- The file that defines a class, if it is known. -/
  sourceFile (c : Class) : Step σ SourceFault (Option FilePath)

/-- The name that asks for the first class of a file. -/
def CodeBase.firstClass : Text := "ns-class"

/-- What the names of modules from files start with. -/
def CodeBase.filePackage : Text := "docassert_source."

/-- The name in the first class statement of a file. -/
def firstClassName (fs : FileSystem) (path : FilePath) : Except LoadError Text :=
  let name := path.toText
  match fs.read name with
  | .error f => .error (.unreadableFile ⟨f, name⟩)
  | .ok bytes =>
    match decode? bytes with
    | none => .error (.undecodable name)
    | some t =>
      match firstClassName? (normalizeNewlines t) with
      | some c => .ok c
      | none => .error (.noClass name)

/-- The name of the class that a file is asked for. -/
def ClassRequest.nameIn (r : ClassRequest) (fs : FileSystem) (path : FilePath) :
    Except LoadError Text :=
  if r.className == CodeBase.firstClass then firstClassName fs path else .ok r.className

/-- The part of a name behind its last point. -/
def lastPart (name : Text) : Text :=
  match cutLast? '.' name with
  | some (_, last) => last
  | none => name

namespace Interpreter

variable {μ : Type} (i : Interpreter (Machine μ))

/-- Carries out the module that a file holds. -/
def fileModule (path : FilePath) : Step (Machine μ) LoadError i.Module := do
  let name := path.toText
  match ← Step.read fun s => s.files.read name with
  | .error .nameTooLong => .fail (.unreadableFile ⟨.nameTooLong, name⟩)
  | .error _ => .fail (.notAFile name)
  | .ok _ => (i.importFile (CodeBase.filePackage ++ path.stem) path).mapError (.ofFile name)

/-- Gets the module of a name. -/
def namedModule (className module : Text) : Step (Machine μ) LoadError i.Module :=
  (i.importModule module).mapError (.ofModule className module)

/-- The class that a name stands for in a module that was carried out. -/
def classNamed (m : i.Module) (className : Text) : Step (Machine μ) LoadError i.Class := do
  let member := lastPart className
  match ← (i.classIn m member).mapError LoadError.raised with
  | some c =>
    let title ← (i.titleOf c).mapError LoadError.raised
    let module ← (i.nameOf m).mapError LoadError.raised
    Step.change (Machine.tell (.classLoaded title module))
    return c
  | none =>
    let module ← (i.nameOf m).mapError LoadError.raised
    .fail (.noSuchClass className member module)

/-- Loads a class. -/
def load (r : ClassRequest) : Step (Machine μ) LoadError i.Class :=
  if r.className.isEmpty then .fail .missingName
  else
    match r.sourceFile with
    | some path => do
      let m ← i.fileModule path
      let name ← Step.read fun s => r.nameIn s.files path
      i.classNamed m (← Step.ofExcept name)
    | none =>
      match cutLast? '.' r.className with
      | some (module@(_ :: _), _) => do
        i.classNamed (← i.namedModule r.className module) r.className
      | _ => .fail (.notDotted r.className)

end Interpreter

/-! ## Known code -/

/-- Whether a module has been imported before, or comes with the language. -/
def Execution.knows (x : Execution) (module : Text) : Bool :=
  (x.modules.lookup module).isSome || Builtin.modules.contains module

/-- The code that classes are loaded from. -/
structure CodeBase where
  files : FileSystem
  /-- The modules that files hold. -/
  sources : List (Location × SourceModule) := []
  /-- The modules that have been imported before, as far as they can be. -/
  modules : List (Text × SourceModule) := []
  /-- The modules that can be imported by name. -/
  importable : List (Text × SourceModule) := []
  /-- The files that named modules are read from. -/
  moduleFiles : List (Text × Text) := []

namespace CodeBase

/-- The module that a file holds; without a statement if nothing is said about it. -/
def moduleAt (b : CodeBase) (path : Text) : SourceModule :=
  match b.files.locate path with
  | .ok l => (b.sources.lookup l).getD {}
  | .error _ => {}

/-- The file extensions of machine code, source code and compiled code. -/
def machineExtension : Text := ".so"
def sourceExtension : Text := ".py"
def compiledExtension : Text := ".pyc"

/-- The failure of a file that holds no compiled code. -/
def notCompiled (module : Text) (bytes : List UInt8) : Text :=
  "bad magic number in " ++ module.quoted ++ ": " ++ quotedBytes (bytes.take 4)

/-- The path of a file from the root. -/
def fullPath (b : CodeBase) (path : FilePath) : Text :=
  if path.isAbsolute then path.toText
  else '/' :: joinWith ['/'] (b.files.current ++ [path.toText])

/-- Where a module that is imported by name comes from. -/
def namedOrigin (b : CodeBase) (name : Text) : Execution.Origin :=
  { name, file? := b.moduleFiles.lookup name }

/-- Carries out a module that is imported by name. -/
def runNamed (b : CodeBase) (x : Execution) (name : Text) (m : SourceModule) : Action Execution := do
  let y ← Execution.run x.knows x (b.namedOrigin name) m
  return { y with modules := y.modules ++ [(name, y.globals)] }

/-- Imports modules, one behind the other. One that fails is not imported. -/
def importAll (b : CodeBase) (x : Execution) : List (Text × SourceModule) → Execution
  | [] => x
  | (name, m) :: ms =>
    match (b.runNamed x name m).result with
    | .error _ => importAll b x ms
    | .ok y => importAll b y ms

/-- What has been imported before. -/
def known (b : CodeBase) : Execution := b.importAll {} b.modules

/-- Imports a module by its name. -/
def importNext (b : CodeBase) (x : Execution) (name : Text) : Action Execution :=
  match x.modules.lookup name, (b.importable ++ b.modules).lookup name with
  | some names, _ => pure { x with globals := names }
  | none, some m => b.runNamed x name m
  | none, none => do
    Execution.findModule x.knows (name.length + 1) name
    return { x with globals := [("__name__", .text name)] }

/-- The names of the modules around a module, the outermost one first, and its own. -/
def withPackages (name : Text) : List Text :=
  let parts := splitOn '.' name
  (List.range parts.length).map fun n => joinWith ['.'] (parts.take (n + 1))

/-- Imports a module by its name, behind those around it up to one that is known. -/
def importNamed (b : CodeBase) (name : Text) : Action Execution :=
  let unknown := (withPackages name).reverse.takeWhile fun n => !b.known.knows n
  if unknown.isEmpty then b.importNext b.known name
  else unknown.reverse.foldlM b.importNext b.known

/-- The fault of a file whose module fails. -/
def fileFault : Fault → FileImportFault
  | f@(.ending _) | f@.unspeakable | f@.unknown => .raised f.escaping
  | f => .failed f.message

/-- The fault of a module that fails and was asked for by its name. -/
def moduleFault (f : Fault) : ModuleImportFault :=
  if f.isAboutModule then .unavailable f.message else .raised f.escaping

/-- Carries out the code in a file. -/
def importFile (b : CodeBase) (module : Text) (path : FilePath) :
    Logged FileImportFault Execution :=
  let name := path.toText
  if endsWith machineExtension name then .fail (.raised (.other "ImportError"))
  else if endsWith sourceExtension name then
    (Execution.run b.known.knows b.known ⟨module, some (b.fullPath path), true⟩
      (b.moduleAt name)).mapError fileFault
  else if endsWith compiledExtension name then
    .fail (.failed (notCompiled module ((b.files.read name).toOption.getD [])))
  else .fail .noLoader

/-- Gets a module by its name. A name that starts with a point is relative to no module. -/
def importModule (b : CodeBase) (module : Text) : Logged ModuleImportFault Execution :=
  if startsWith ['.'] module then .fail (.raised (.other "TypeError"))
  else (b.importNamed module).mapError moduleFault

/-- What a module has under a name. A name that it does not have is looked for among the attributes
of all modules, and asked of a function of the module. -/
def memberOf (x : Execution) (name : Text) : Action (Option Binding) :=
  match x.globals.lookup name with
  | some b => pure (some b)
  | none =>
    let found := x.attributeOf (.module []) name
    .after found.events <|
      match found.result, x.globals.lookup "__getattr__".toList with
      | .ok b, _ => pure (some b)
      | .error f, none => if f.isAboutAttribute then pure none else .fail f
      | .error f, some asked =>
        if f.isAboutAttribute then some <$> x.call asked [.text name] else .fail f

/-- The class that a module has under a name. -/
def classIn (x : Execution) (name : Text) : Logged Raised (Option SourceClass) := do
  match ← (memberOf x name).mapError Fault.escaping with
  | some (.cls c) => return some (x.sourceClass c)
  | some b =>
    -- what comes of a thing that says to be a class is not known
    match ← (x.claimOf b).mapError Fault.escaping with
    | some k => if x.table.derivesFrom k Builtin.metaclass then Logged.fail .unknown else return none
    | none => return none
  | none => return none

/-- The path of the source code that was compiled into a file. -/
def sourceOfCompiled (path : Text) : Text :=
  match dropSuffix? compiledExtension path with
  | none => path
  | some stem =>
    -- a name that is only an extension has no other one
    let isName := (stem.reverse.takeWhile (· != '/')).any (· != '.')
    (if isName then stem else path) ++ sourceExtension

/-- The file that defines a class, if it is known. A class of the main module has to have one. -/
def sourceFile (b : CodeBase) (c : SourceClass) : Except SourceFault (Option FilePath) :=
  match (c.module?.bind Value.text?).bind fun m => b.moduleFiles.lookup m with
  | some file@(_ :: _) =>
    let path := sourceOfCompiled file
    if path != file then .ok (if b.files.pathExists path then some (.ofText path) else none)
    else if endsWith machineExtension path || !b.files.pathExists path then .ok none
    else .ok (some (.ofText path))
  | _ =>
    if c.module?.bind Value.text? == some SourceClass.mainModule then .error .unavailable
    else .ok none

/-- The code with the files as they are on a machine. -/
def onMachine (b : CodeBase) (s : Machine Unit) : CodeBase := { b with files := s.files }

/-- The interpreter of the code. -/
def interpreter (b : CodeBase) : Interpreter (Machine Unit) where
  Module := Execution
  Class := SourceClass
  importFile module path := fun s => ((b.onMachine s).importFile module path).onMachine s
  importModule module := (b.importModule module).onMachine
  classIn x name := (classIn x name).onMachine
  nameOf x := pure x.moduleName.shown
  titleOf c := pure c.qualifiedName
  describe c module? := (c.describe? module?).onMachine
  sourceFile c := fun s => ⟨s, (b.onMachine s).sourceFile c⟩

/-- The machine with the files of the code. -/
def machine (b : CodeBase) : Machine Unit := { files := b.files, memory := () }

/-- Carries out the module that a file holds. -/
def runFile (b : CodeBase) (path : FilePath) : Outcome (Machine Unit) LoadError Execution :=
  b.interpreter.fileModule path b.machine

/-- Loads a class. -/
def load (b : CodeBase) (r : ClassRequest) : Outcome (Machine Unit) LoadError SourceClass :=
  b.interpreter.load r b.machine

end CodeBase

end TestSkeleton
