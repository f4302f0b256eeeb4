import Mathlib.Logic.Relation
import TestSkeleton.CommandLine.Run
import TestSkeleton.Proofs.Machine
import TestSkeleton.Proofs.Source.Loading
import TestSkeleton.Proofs.Source.Printing
import TestSkeleton.Proofs.Template.Standard
import TestSkeleton.Proofs.TestClass.Effects

set_option autoImplicit false

/-! # Runs that fail before there is a result

A run first loads a class, then plans and renders its tests one by one, and then renders the module
around them. Up to there the program itself does nothing but to speak: what else happens to the
machine, code of others does that is carried out on the way (`generateOn_leads`). So when one of the
steps fails, be it the first or the last, such code has made of the files and of the standard output
all that has become of them (`failed_generation_emits_nothing`).
-/

namespace TestSkeleton

open Annotation Text

/-! ## Reading descriptions -/

theorem ClassInfo.ofDocument_isSilent (text : Text) (path : Option Text) :
    (ClassInfo.ofDocument text path).IsSilent := by
  have hentries : ∀ parts es, (ClassInfo.ofDocument.ofEntries parts es path).IsSilent := by
    intro parts es
    unfold ClassInfo.ofDocument.ofEntries
    split
    next => exact .after rfl (.pure _)
    next =>
      dsimp only
      split <;> exact .fail _
  unfold ClassInfo.ofDocument
  split
  next => exact .fail _
  next => exact .fail _
  next => exact .fail _
  next =>
    dsimp only
    split
    next => exact hentries _ _
    next => exact hentries _ _
    next => exact .fail _

theorem ClassInfo.ofFile_isSilent (fs : FileSystem) (path : FilePath) :
    (ClassInfo.ofFile fs path).IsSilent := by
  unfold ClassInfo.ofFile
  dsimp only
  split
  next => exact .fail _
  next => exact .fail _
  next =>
    split
    next => exact .fail _
    next => exact ClassInfo.ofDocument_isSilent _ _

/-! ## What code of others does -/

section Platform

variable {μ : Type} (p : Platform μ) (g : GenerationRequest)

/-- Code of others that is carried out for a request, as what it does to the machine: the code of the
class, if it is not from a description, and templates that are found. -/
inductive Platform.CarriesOut : Machine μ → Machine μ → Prop where
  | importFile {r : ClassRequest} {path : FilePath} (horigin : g.origin = .code r)
      (hfile : r.sourceFile = some path) (s : Machine μ) :
      CarriesOut s (p.interpreter.importFile (CodeBase.filePackage ++ path.stem) path s).state
  | importModule {r : ClassRequest} {module member : Text} (horigin : g.origin = .code r)
      (hfile : r.sourceFile = none) (hmodule : cutLast? '.' r.className = some (module, member))
      (s : Machine μ) :
      CarriesOut s (p.interpreter.importModule module s).state
  | classIn {r : ClassRequest} (horigin : g.origin = .code r) (m : p.interpreter.Module)
      (name : Text) (s : Machine μ) : CarriesOut s (p.interpreter.classIn m name s).state
  | nameOf {r : ClassRequest} (horigin : g.origin = .code r) (m : p.interpreter.Module)
      (s : Machine μ) : CarriesOut s (p.interpreter.nameOf m s).state
  | titleOf {r : ClassRequest} (horigin : g.origin = .code r) (c : p.interpreter.Class)
      (s : Machine μ) : CarriesOut s (p.interpreter.titleOf c s).state
  | describe {r : ClassRequest} (horigin : g.origin = .code r) (c : p.interpreter.Class)
      (s : Machine μ) : CarriesOut s (p.interpreter.describe c r.module? s).state
  | template {file text : Text} {task : Bindings → TemplateTask (Machine μ)} {s : Machine μ}
      (hsource : (TemplateLibrary.inFiles s.files g.templateDirectory).source file = .ok text)
      (hcompile : p.engine.compile file text = .ok task) (vars : Bindings) :
      CarriesOut s ((task vars).run (templateSource g.templateDirectory) s).state

/-- What can come of a machine on the way to the tests of a request: code of others is carried out,
and the program speaks. -/
abbrev Platform.Leads : Machine μ → Machine μ → Prop :=
  Relation.ReflTransGen fun s s' => p.CarriesOut g s s' ∨ Machine.Speaks s s'

end Platform

/-! ## Steps of a run -/

section Steps

variable {μ : Type} {p : Platform μ} {g : GenerationRequest} {ε α β : Type}

theorem leads_of_carriesOut {s s' : Machine μ} (h : p.CarriesOut g s s') : p.Leads g s s' :=
  .single (.inl h)

theorem leads_of_speaks {s s' : Machine μ} (h : s.Speaks s') : p.Leads g s s' := .single (.inr h)

theorem leads_tell {e : Event} (he : e.written = []) (s : Machine μ) : p.Leads g s (s.tell e) :=
  leads_of_speaks (.tell he s)

namespace Step.Keeps

variable {x : Step (Machine μ) ε α} {f : α → Step (Machine μ) ε β}

theorem of_speaks (h : ∀ s : Machine μ, s.Speaks (x s).state) : x.Keeps (p.Leads g) :=
  fun s => leads_of_speaks (h s)

theorem tell {e : Event} (he : e.written = []) :
    (Step.change (Machine.tell e) : Step (Machine μ) ε Unit).Keeps (p.Leads g) := leads_tell he

theorem ofExcept (r : Except ε α) : (Step.ofExcept r).Keeps (p.Leads g) := fun _ => .refl

theorem andThen (hx : x.Keeps (p.Leads g)) (hf : ∀ a, (f a).Keeps (p.Leads g)) :
    (x >>= f).Keeps (p.Leads g) := bind .trans hx hf

end Step.Keeps

/-- **A template is rendered** by what it does itself, and the program tells so. -/
theorem renderer_leads (q : RenderRequest) :
    (p.renderer g.templateDirectory q).Keeps (p.Leads g) := by
  intro s
  let file := templateFile q.template.name
  cases hcompiled : (TemplateLibrary.inFiles s.files g.templateDirectory).source file
      >>= p.engine.compile file with
  | error f =>
      rw [Platform.renderer, TemplateEngine.render_of_error (f := f) hcompiled]
      exact .refl
  | ok task =>
      obtain ⟨t, htext, hcompile⟩ := bind_eq_ok_iff.mp hcompiled
      have htold : p.Leads g s (s.tell (.templateRendering file)) := leads_tell rfl s
      rw [Platform.renderer, TemplateEngine.render_of_ok htext hcompile]
      refine htold.trans (leads_of_carriesOut (.template ?_ hcompile q.bindings))
      rw [(Machine.Speaks.tell rfl s).files]
      exact htext

theorem fileModule_leads {r : ClassRequest} {path : FilePath} (horigin : g.origin = .code r)
    (hfile : r.sourceFile = some path) : (p.interpreter.fileModule path).Keeps (p.Leads g) := by
  intro s
  rw [Interpreter.fileModule_apply]
  split
  next => exact .refl
  next => exact .refl
  next => exact leads_of_carriesOut (.importFile horigin hfile s)

theorem classNamed_leads {r : ClassRequest} (horigin : g.origin = .code r)
    (m : p.interpreter.Module) (className : Text) :
    (p.interpreter.classNamed m className).Keeps (p.Leads g) := by
  have hname : (p.interpreter.nameOf m).Keeps (p.Leads g) :=
    fun s => leads_of_carriesOut (.nameOf horigin m s)
  refine .andThen (.mapError (fun s => leads_of_carriesOut (.classIn horigin m _ s)) _) fun c? => ?_
  cases c? with
  | some c =>
      refine .andThen (.mapError (fun s => leads_of_carriesOut (.titleOf horigin c s)) _) fun t => ?_
      refine .andThen (.mapError hname _) fun name => ?_
      exact .andThen (.tell rfl) fun _ => .ofExcept _
  | none => exact .andThen (.mapError hname _) fun name => .ofExcept _

/-- **A class is loaded** by what its code does. -/
theorem load_leads {r : ClassRequest} (horigin : g.origin = .code r) :
    (p.interpreter.load r).Keeps (p.Leads g) := by
  unfold Interpreter.load
  split
  next => exact .ofExcept _
  next =>
    split
    next path hfile =>
      refine .andThen (fileModule_leads horigin hfile) fun m => ?_
      refine .andThen (fun s => .refl) fun name? => ?_
      exact .andThen (.ofExcept _) fun name => classNamed_leads horigin m name
    next hfile =>
      split
      next module last hmodule =>
        refine .andThen (.mapError ?_ _) fun m => classNamed_leads horigin m _
        exact fun s => leads_of_carriesOut (.importModule horigin hfile hmodule s)
      next => exact .ofExcept _

theorem loadOn_leads : (g.origin.loadOn p).Keeps (p.Leads g) := by
  cases horigin : g.origin with
  | code r =>
      refine .andThen (.mapError (load_leads horigin) _) fun c => ?_
      refine .andThen (.mapError ?_ _) fun info => .ofExcept _
      exact fun s => leads_of_carriesOut (.describe horigin c s)
  | description path =>
      refine .andThen (.mapError (.of_speaks fun s => ?_) _) fun info => .ofExcept _
      exact (ClassInfo.ofFile_isSilent s.files path).speaks s

/-- **Up to the tests, the program only speaks.** -/
theorem generateOn_leads : (g.generateOn p).Keeps (p.Leads g) := by
  refine .andThen loadOn_leads fun c => .andThen (.tell rfl) fun _ => ?_
  refine .andThen (fun s => .refl) fun now => .andThen (.mapError ?_ _) fun t => .ofExcept _
  exact GeneratedClass.generateWith_keeps (fun s => .refl) .trans (fun e he s => leads_tell he s)
    renderer_leads c.info _

end Steps

/-! ## Steps that fail -/

namespace GenerationRequest

variable {μ : Type}

/-- What comes of loading the class of a request. -/
def loadedFrom (p : Platform μ) (g : GenerationRequest) (s : Machine μ) :
    Outcome (Machine μ) RunError (LoadedClass (Machine μ)) :=
  g.origin.loadOn p (s.setUp g.verbose)

/-- The machine on which the tests of a class are built that was loaded. -/
def readyFrom (p : Platform μ) (g : GenerationRequest) (s : Machine μ)
    (c : LoadedClass (Machine μ)) : Machine μ :=
  (g.loadedFrom p s).state.tell (.generating c.info.name c.info.methods.length)

/-- What comes of building the test class of a class that was loaded. -/
def builtFrom (p : Platform μ) (g : GenerationRequest) (s : Machine μ)
    (c : LoadedClass (Machine μ)) : Outcome (Machine μ) (BuildError RenderError) GeneratedClass :=
  GeneratedClass.buildWith Machine.tell (p.renderer g.templateDirectory) (some c.info)
    ⟨g.testClassName, (g.readyFrom p s c).now⟩ (g.readyFrom p s c)

/-- What comes of generating the module with these tests. -/
def moduleFrom (p : Platform μ) (g : GenerationRequest) (s : Machine μ)
    (c : LoadedClass (Machine μ)) : Outcome (Machine μ) (BuildError RenderError) Text :=
  GeneratedClass.generateWith Machine.tell (p.renderer g.templateDirectory) (some c.info)
    ⟨g.testClassName, (g.readyFrom p s c).now⟩ (g.readyFrom p s c)

/-- A step on the way to the tests of a request fails. -/
inductive StepFails (p : Platform μ) (g : GenerationRequest) (s : Machine μ) : Prop
  /-- The class cannot be loaded, or its description cannot be read. -/
  | loading {e : RunError} (h : (g.loadedFrom p s).result = .error e)
  /-- The class has no name. -/
  | unnamed {c : LoadedClass (Machine μ)} (h : (g.loadedFrom p s).result = .ok c)
      (hname : c.info.name = [])
  /-- The doc comment of an eligible method cannot be read. -/
  | extracting {c : LoadedClass (Machine μ)} {m : Method} {e : MissingExpression}
      (h : (g.loadedFrom p s).result = .ok c) (hm : m ∈ c.info.eligible)
      (he : extract m.doc = .error e)
  /-- A tag of an eligible method asks for no assertion. -/
  | mapping {c : LoadedClass (Machine μ)} {m : Method} {tags : List Tag} {t : Tag}
      {e : AssertionError} (h : (g.loadedFrom p s).result = .ok c) (hm : m ∈ c.info.eligible)
      (hread : extract m.doc = .ok tags) (ht : t ∈ tags)
      (he : Assertion.ofTag t m.isStatic = .error e)
  /-- A planned test cannot be rendered, behind any number of others. -/
  | renderingMethod {c : LoadedClass (Machine μ)} {e : RenderError}
      (h : (g.loadedFrom p s).result = .ok c) (he : (g.builtFrom p s c).result = .error (.render e))
  /-- All tests are rendered, but not the module around them. -/
  | renderingModule {c : LoadedClass (Machine μ)} {tests : GeneratedClass} {e : RenderError}
      (h : (g.loadedFrom p s).result = .ok c) (htests : (g.builtFrom p s c).result = .ok tests)
      (he : (p.renderer g.templateDirectory tests.request (g.builtFrom p s c).state).result
        = .error e)

variable {p : Platform μ} {g : GenerationRequest} {s : Machine μ}

/-- Behind loading, the module is generated. -/
theorem generateOn_of_loaded {c : LoadedClass (Machine μ)} (h : (g.loadedFrom p s).result = .ok c) :
    g.generateOn p (s.setUp g.verbose)
      = ⟨(g.moduleFrom p s c).state,
          ((g.moduleFrom p s c).result.mapError RunError.build).map fun t => (c, t)⟩ := by
  have hload : (g.origin.loadOn p (s.setUp g.verbose)).result = .ok c := h
  rw [generateOn, Step.bind_of_ok hload, Step.change_bind, Step.read_bind, Step.bind_pure_apply]
  rfl

theorem result_generateOn_eq_error_iff {e : RunError} :
    (g.generateOn p (s.setUp g.verbose)).result = .error e
      ↔ (g.loadedFrom p s).result = .error e
        ∨ ∃ c b, (g.loadedFrom p s).result = .ok c ∧ (g.moduleFrom p s c).result = .error b
            ∧ e = .build b := by
  cases h : (g.loadedFrom p s).result with
  | error e' =>
      have hload : (g.origin.loadOn p (s.setUp g.verbose)).result = .error e' := h
      rw [generateOn, Step.bind_of_error hload]
      simp
  | ok c =>
      rw [generateOn_of_loaded h, map_eq_error_iff, mapError_eq_error_iff]
      simp [eq_comm]

/-- **Generating tests fails** just if one of its steps does. -/
theorem stepFails_iff :
    g.StepFails p s ↔ ∃ e, (g.generateOn p (s.setUp g.verbose)).result = .error e := by
  -- without a test class there is no module, whatever the error
  have hbuild : ∀ {c}, (g.loadedFrom p s).result = .ok c →
      (∃ b, (g.builtFrom p s c).result = .error b) →
      ∃ e, (g.generateOn p (s.setUp g.verbose)).result = .error e := by
    rintro c hload ⟨b, hb⟩
    exact ⟨_, result_generateOn_eq_error_iff.mpr <| .inr
      ⟨c, b, hload, GeneratedClass.generateWith_eq_error_iff.mpr (.inl hb), rfl⟩⟩
  constructor
  · intro h
    cases h with
    | loading h => exact ⟨_, result_generateOn_eq_error_iff.mpr (.inl h)⟩
    | unnamed h hname =>
        exact hbuild h (GeneratedClass.exists_buildWith_error_iff.mpr (.inl hname))
    | extracting h hm he =>
        have hfault := Method.not_isSound_iff.mpr (.inl ⟨_, he⟩)
        exact hbuild h (GeneratedClass.exists_buildWith_error_iff.mpr (.inr (.inl ⟨_, hm, hfault⟩)))
    | mapping h hm hread ht he =>
        have hfault := Method.not_isSound_iff.mpr (.inr ⟨_, _, _, hread, ht, he⟩)
        exact hbuild h (GeneratedClass.exists_buildWith_error_iff.mpr (.inr (.inl ⟨_, hm, hfault⟩)))
    | renderingMethod h he => exact hbuild h ⟨_, he⟩
    | renderingModule h htests he =>
        exact ⟨_, result_generateOn_eq_error_iff.mpr <| .inr ⟨_, _, h,
          GeneratedClass.generateWith_eq_error_iff.mpr (.inr ⟨_, _, htests, he, rfl⟩), rfl⟩⟩
  · rintro ⟨e, h⟩
    rcases result_generateOn_eq_error_iff.mp h with hload | ⟨c, b, hload, hb, -⟩
    · exact .loading hload
    · rcases GeneratedClass.generateWith_eq_error_iff.mp hb with hb | ⟨tests, e', htests, he', -⟩
      · rcases GeneratedClass.exists_buildWith_error_iff.mp ⟨b, hb⟩ with
          hname | ⟨m, hm, hfault⟩ | ⟨e', he'⟩
        · exact .unnamed hload hname
        · rcases Method.not_isSound_iff.mp hfault with ⟨e', he'⟩ | ⟨tags, t, e', hread, ht, he'⟩
          · exact .extracting hload hm he'
          · exact .mapping hload hm hread ht he'
        · exact .renderingMethod hload he'
      · exact .renderingModule hload htests he'

end GenerationRequest

/-! ## Runs -/

section Runs

variable {μ : Type} {p : Platform μ} {g : GenerationRequest} {s : Machine μ}

/-- What is left of the machine by a run that fails is what was there, and a message. -/
theorem RunError.endRun_speaks (e : RunError) (s : Machine μ) :
    s.Speaks (e.endRun s).toMachine := by
  unfold endRun
  split
  next => exact .complain _ s
  next =>
    split
    next => exact .complain _ s
    next => exact .refl s

theorem Platform.run_of_asked {arguments : List Text}
    (h : Request.ofArguments s.files s.templateVariable arguments = .ok (.generate g)) :
    p.run arguments s = g.runOn p s := by
  rw [Platform.run, h]
  rfl

theorem World.run_of_asked {w : World} {arguments : List Text}
    (h : Request.ofArguments w.files w.templateVariable arguments = .ok (.generate g)) :
    w.run arguments = g.run w :=
  Platform.run_of_asked (p := w.platform) (s := w.machine) h

/-- A run without tests tells of the failure. -/
theorem GenerationRequest.runOn_of_generateOn_error {e : RunError} {u : Machine μ}
    (h : g.generateOn p (s.setUp g.verbose) = ⟨u, .error e⟩) : g.runOn p s = e.endRun u := by
  unfold runOn
  simp only [Step.bind_of_error (congrArg Outcome.result h), h]

/-- What only code of others can change stays as it is if such code leaves it. -/
theorem eq_of_leads {α : Type} {f : Machine μ → α} {s s' : Machine μ} (h : p.Leads g s s')
    (hspeaks : ∀ u v : Machine μ, u.Speaks v → f v = f u)
    (hcode : ∀ u v, p.CarriesOut g u v → f v = f u) : f s' = f s := by
  induction h with
  | refl => rfl
  | tail _ hstep ih =>
      rcases hstep with hstep | hstep
      · exact (hcode _ _ hstep).trans ih
      · exact (hspeaks _ _ hstep).trans ih

/-- **A failure leaves nothing behind.** If a step on the way to the tests fails, then whatever code
there is outside of the program, the run leads from the machine before it to the one behind it with
nothing done but what such code did itself, for the class if it is not from a description and for the
templates, and with messages of the program: none of the tests is shown or written, however many are
rendered by then and wherever they are to go. So the files are as they were unless such code has
changed them, and the standard output holds what was there unless such code has written to it. -/
theorem failed_generation_emits_nothing (p : Platform μ) (s : Machine μ) (arguments : List Text)
    (g : GenerationRequest)
    (hasked : Request.ofArguments s.files s.templateVariable arguments = .ok (.generate g))
    (hfails : g.StepFails p s) :
    p.Leads g s (p.run arguments s).toMachine ∧
    ((∀ u v, p.CarriesOut g u v → v.files = u.files) → (p.run arguments s).files = s.files) ∧
    ((∀ u v, p.CarriesOut g u v → v.output = u.output) → (p.run arguments s).output = s.output) := by
  obtain ⟨e, he⟩ := GenerationRequest.stepFails_iff.mp hfails
  have hleads : p.Leads g s (p.run arguments s).toMachine := by
    rw [Platform.run_of_asked hasked,
      GenerationRequest.runOn_of_generateOn_error (Outcome.eq_of_result he)]
    have hsetUp : p.Leads g s (s.setUp g.verbose) := leads_of_speaks (.setUp _ s)
    exact (hsetUp.trans (generateOn_leads _)).trans (leads_of_speaks (e.endRun_speaks _))
  exact ⟨hleads, eq_of_leads hleads fun _ _ h => h.files, eq_of_leads hleads fun _ _ h => h.output⟩

end Runs

/-! ### The standard engine -/

/-- A template of the standard engine does nothing to the machine. -/
theorem standard_carriesOut {μ : Type} {p : Platform μ} {directory : Option Text}
    {file text : Text} {task : Bindings → TemplateTask (Machine μ)}
    (hengine : p.engine = .standard) (hcompile : p.engine.compile file text = .ok task)
    (vars : Bindings) (s : Machine μ) : ((task vars).run (templateSource directory) s).state = s := by
  rw [hengine, TemplateEngine.compile_standard] at hcompile
  obtain ⟨t, -, rfl⟩ := map_eq_ok_iff.mp hcompile
  have hreads : TemplateTask.Reads (templateSource directory)
      (TemplateLibrary.inFiles s.files directory).source s := fun file => rfl
  obtain ⟨r, hr, -⟩ := (TemplateEngine.standardTask_matches file t vars).run hreads hreads
  rw [hr]

/-! ### A tag without its end -/

/-- A world with these entries and no code. -/
def World.ofEntries (entries : List (Location × Entry)) : World where
  code := { files := { entries } }
  now := { date := ⟨2024, 5, 17⟩, hour := 9, minute := 30, second := 15 }

/-- Nothing happens by itself in the standard engine, and nothing else is carried out for a class that
is described. -/
theorem Platform.eq_of_carriesOut {μ : Type} {p : Platform μ} {g : GenerationRequest}
    {path : FilePath} (hengine : p.engine = .standard) (hpath : g.origin = .description path)
    {u v : Machine μ} (h : p.CarriesOut g u v) : v = u := by
  cases h with
  | template _ hcompile vars => exact standard_carriesOut hengine hcompile vars u
  | importFile horigin | importModule horigin | classIn horigin | nameOf horigin | titleOf horigin
  | describe horigin => cases hpath.symm.trans horigin

/-- The description of a class with two methods, of which the second has an unfinished tag. -/
def unfinishedTag : World :=
  .ofEntries [(["m"], .file (encode
    "class: A\nmethods:\n- name: f\n  doc: x @assert (1) == 2\n- name: g\n  doc: x @assert"))]

def unfinishedTagArguments : List Text :=
  ["generate-from-metadata", "m", "--output", "o", "--format", "file"]

def unfinishedTagRequest : GenerationRequest where
  origin := .description ⟨[], ["m"]⟩
  output := some "o"
  format := .file

theorem unfinishedTag_stepFails :
    unfinishedTagRequest.StepFails unfinishedTag.platform unfinishedTag.machine := by
  have h : (match (unfinishedTagRequest.loadedFrom unfinishedTag.platform
        unfinishedTag.machine).result with
      | .ok c => c.info.eligible.any fun m => !(extract m.doc).isOk
      | .error _ => false) = true := by decide +kernel
  cases hload : (unfinishedTagRequest.loadedFrom unfinishedTag.platform
      unfinishedTag.machine).result with
  | error e => rw [hload] at h; cases h
  | ok c =>
      rw [hload] at h
      obtain ⟨m, hm, hopen⟩ := List.any_eq_true.mp h
      cases hread : extract m.doc with
      | ok tags => rw [hread] at hopen; cases hopen
      | error e => exact .extracting hload hm hread

theorem unfinishedTag_emits_nothing :
    (unfinishedTag.run unfinishedTagArguments).output = [] ∧
    (unfinishedTag.run unfinishedTagArguments).files = unfinishedTag.files := by
  have hasked : Request.ofArguments unfinishedTag.files unfinishedTag.templateVariable
      unfinishedTagArguments = .ok (.generate unfinishedTagRequest) := by decide +kernel
  obtain ⟨-, hfiles, houtput⟩ := failed_generation_emits_nothing unfinishedTag.platform
    unfinishedTag.machine unfinishedTagArguments unfinishedTagRequest hasked unfinishedTag_stepFails
  have hkept : ∀ u v, unfinishedTag.platform.CarriesOut unfinishedTagRequest u v → v = u :=
    fun u v => Platform.eq_of_carriesOut rfl rfl
  exact ⟨houtput fun u v h => by rw [hkept u v h], hfiles fun u v h => by rw [hkept u v h]⟩

/-! ### Code that writes -/

/-- A module that writes a text while it is carried out, and then fails. -/
def printingModule : SourceModule where
  items := [.raise "print" "hello"]

/-- A world with that module in a file. -/
def printingFile : World where
  code := { files := { entries := [(["c.py"], .file [])] }, sources := [(["c.py"], printingModule)] }
  now := { date := ⟨2024, 5, 17⟩, hour := 9, minute := 30, second := 15 }

def printingRequest : GenerationRequest where
  origin := .code ⟨"C", some ⟨[], ["c.py"]⟩⟩

def printingArguments : List Text := ["generate", "C", "--source-file", "c.py"]

/-- A file that fails holds no class. -/
theorem Interpreter.load_of_failed {μ : Type} {i : Interpreter (Machine μ)} {className : Text}
    {path : FilePath} {s : Machine μ} {e : LoadError} (hname : className ≠ [])
    (h : (i.fileModule path s).result = .error e) :
    i.load ⟨className, some path⟩ s = ⟨(i.fileModule path s).state, .error e⟩ := by
  unfold load
  rw [if_neg (by simpa using hname)]
  exact Step.bind_of_error h _

theorem printingFile_fileModule (s : Machine Unit) (hs : s.files = printingFile.files) :
    printingFile.code.interpreter.fileModule ⟨[], ["c.py"]⟩ s
      = ⟨s.write ("hello".toList ++ ['\n']),
          .error (.ofFile "c.py" (CodeBase.fileFault .notAnException))⟩ := by
  have hread : s.files.read (FilePath.toText ⟨[], ["c.py"]⟩) = .ok [] := by
    rw [hs]
    decide +kernel
  have hcode : printingFile.code.onMachine s = printingFile.code := by
    unfold CodeBase.onMachine
    rw [hs]
    rfl
  have hmodule : printingFile.code.moduleAt (FilePath.toText ⟨[], ["c.py"]⟩) = printingModule := rfl
  have hitems : printingModule.items = .raise Builtin.printName "hello" :: [] := rfl
  have htext : printingModule.toText ≠ [] := by decide +kernel
  have hsource : printingFile.code.runSource ⟨[], ["c.py"]⟩
      = ⟨[.textWritten ("hello".toList ++ ['\n'])],
          .error (CodeBase.fileFault .notAnException)⟩ := by
    rw [CodeBase.runSource, hmodule,
      Execution.run_raise_print rfl (by decide +kernel) hitems htext]
    rfl
  have himport : printingFile.code.interpreter.importFile
      (CodeBase.filePackage ++ FilePath.stem ⟨[], ["c.py"]⟩) ⟨[], ["c.py"]⟩ s
      = ⟨s.write ("hello".toList ++ ['\n']), .error (CodeBase.fileFault .notAnException)⟩ := by
    show ((printingFile.code.onMachine s).importFile _ _).onMachine s = _
    rw [hcode, CodeBase.importFile_of_source (by decide) (by decide), hsource]
    rfl
  rw [Interpreter.fileModule_apply, hread]
  show Step.mapError _ _ s = _
  rw [Step.mapError_apply, himport]
  rfl

/-- The failure of that module. -/
def printingError : LoadError := .ofFile "c.py" (CodeBase.fileFault .notAnException)

theorem printingFile_load (s : Machine Unit) (hs : s.files = printingFile.files) :
    printingFile.code.interpreter.load ⟨"C", some ⟨[], ["c.py"]⟩⟩ s
      = ⟨s.write ("hello".toList ++ ['\n']), .error printingError⟩ := by
  have hmodule := printingFile_fileModule s hs
  have hfailed : (printingFile.code.interpreter.fileModule ⟨[], ["c.py"]⟩ s).result
      = .error printingError := by rw [hmodule]; rfl
  rw [Interpreter.load_of_failed (by decide) hfailed, hmodule]

theorem printingFile_loadOn (s : Machine Unit) (hs : s.files = printingFile.files) :
    printingRequest.origin.loadOn printingFile.platform s
      = ⟨s.write ("hello".toList ++ ['\n']), .error (.load printingError)⟩ := by
  have hload : (printingFile.code.interpreter.load ⟨"C", some ⟨[], ["c.py"]⟩⟩).mapError
      RunError.load s = ⟨s.write ("hello".toList ++ ['\n']), .error (.load printingError)⟩ := by
    rw [Step.mapError_apply, printingFile_load s hs]
    rfl
  have hfailed := congrArg Outcome.result hload
  refine (Step.bind_of_error hfailed _).trans ?_
  rw [hload]

theorem printingFile_generateOn :
    printingRequest.generateOn printingFile.platform
        (printingFile.machine.setUp printingRequest.verbose)
      = ⟨(printingFile.machine.setUp false).write ("hello".toList ++ ['\n']),
          .error (.load printingError)⟩ := by
  have hload := printingFile_loadOn (printingFile.machine.setUp false) rfl
  refine (Step.bind_of_error (congrArg Outcome.result hload) _).trans ?_
  rw [hload]

/-- An interpreter of files that open another file, and then fail. -/
def leaking : Interpreter (Machine Unit) where
  Module := Unit
  Class := Unit
  importFile _ _ s := ⟨{ s with files := s.files.put ["leak.txt"] (.file []) }, .error (.failed "")⟩
  importModule _ := .fail (.unavailable "")
  classIn _ _ := pure none
  nameOf _ := pure []
  titleOf _ := pure []
  describe _ _ := .fail .docNotText
  sourceFile _ := pure none

/-- **Nothing is not all that is left of every failure**: the code of a class can write to the
standard output, and to files, before it fails. -/
theorem printingFile_emits :
    (¬ ∀ (w : World) (arguments : List Text) (g : GenerationRequest),
      Request.ofArguments w.files w.templateVariable arguments = .ok (.generate g) →
      g.StepFails w.platform w.machine → (w.run arguments).output = []) ∧
    ¬ ∀ (p : Platform Unit) (s : Machine Unit) (arguments : List Text) (g : GenerationRequest),
      Request.ofArguments s.files s.templateVariable arguments = .ok (.generate g) →
      g.StepFails p s → (p.run arguments s).files = s.files := by
  have hasked : Request.ofArguments printingFile.files printingFile.templateVariable
      printingArguments = .ok (.generate printingRequest) := by decide +kernel
  constructor
  · intro h
    have hload := printingFile_loadOn (printingFile.machine.setUp false) rfl
    have hfails : printingRequest.StepFails printingFile.platform printingFile.machine :=
      .loading (congrArg Outcome.result hload)
    have houtput := h printingFile printingArguments printingRequest hasked hfails
    rw [World.run_of_asked hasked, GenerationRequest.run,
      GenerationRequest.runOn_of_generateOn_error printingFile_generateOn,
      (RunError.endRun_speaks _ _).output] at houtput
    exact absurd houtput (by decide)
  · intro h
    have hfails : printingRequest.StepFails ⟨leaking, .standard⟩ printingFile.machine := by
      have hfailed : (printingRequest.loadedFrom ⟨leaking, .standard⟩
          printingFile.machine).result.isOk = false := by decide +kernel
      cases hload : (printingRequest.loadedFrom ⟨leaking, .standard⟩ printingFile.machine).result with
      | error e => exact .loading hload
      | ok c => rw [hload] at hfailed; cases hfailed
    have hfiles := h ⟨leaking, .standard⟩ printingFile.machine printingArguments printingRequest
      hasked hfails
    exact absurd hfiles (by decide +kernel)

end TestSkeleton
