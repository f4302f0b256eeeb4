import TestSkeleton.Proofs.CommandLine.Generation

set_option autoImplicit false

/-! # Runs with known code

The standard engine renders on a machine as it does without one. So the module that a run generates
with it is the one that is generated from the same description by the same templates without any run
(`Platform.generateWith_renderer`). Neither this engine nor the code of a code base changes files
(`World.keepsFiles`).
-/

namespace TestSkeleton

open Text

variable {μ : Type} {p : Platform μ}

/-! ## Templates -/

/-- With the standard engine, a renderer is that of the templates as they are in the files. -/
theorem Platform.renderer_apply (hengine : p.engine = .standard) (directory : Option Text)
    (q : RenderRequest) (s : Machine μ) :
    p.renderer directory q s
      = ((TemplateLibrary.inFiles s.files directory).renderer q).onMachine s := by
  let library := TemplateLibrary.inFiles s.files directory
  let file := templateFile q.template.name
  let listed (file : Text) : Step (List Event) RenderFault Text := .ofExcept (library.source file)
  have hlisted (es : List Event) : TemplateTask.Reads listed library.source es := fun _ => rfl
  have hs : TemplateTask.Reads (templateSource directory) library.source s := fun _ => rfl
  have htold : TemplateTask.Reads (templateSource directory) library.source
      (s.tell (.templateRendering file)) := fun _ => by
    rw [templateSource, (Machine.Speaks.tell rfl s).files]
  obtain ⟨isTold, r, hr, hr'⟩ : ∃ (isTold : Bool) (r : Except RenderError Text),
      TemplateEngine.standard.render (templateSource directory) Machine.tell q.template.name q.bindings s
        = ⟨if isTold then s.tell (.templateRendering file) else s, r⟩
      ∧ TemplateEngine.standard.render listed (fun e es => es ++ [e]) q.template.name q.bindings []
        = ⟨if isTold then [.templateRendering file] else [], r⟩ :=
    TemplateEngine.render_standard rfl hs htold (hlisted _) (hlisted _) q.bindings
  have hlibrary : library.renderer q = ⟨if isTold then [.templateRendering file] else [], r⟩ :=
    congrArg (fun o => Logged.mk o.state o.result) hr'
  rw [Platform.renderer, hengine, hr, hlibrary]
  cases isTold <;> rfl

/-- **The module that a run generates** is the one that is generated with the same templates. -/
theorem Platform.generateWith_renderer (hengine : p.engine = .standard) (directory : Option Text)
    (c? : Option ClassInfo) (o : GeneratedClass.Options) (s : Machine μ) :
    GeneratedClass.generateWith Machine.tell (p.renderer directory) c? o s
      = (GeneratedClass.generate (TemplateLibrary.inFiles s.files directory).renderer c? o).onMachine
          s := by
  refine GeneratedClass.generateWith_onMachine (fun q u hu => ?_) c? o rfl
  rw [Platform.renderer_apply hengine, hu]

/-! ## Files -/

/-- Code of others leaves the files as they are. -/
structure Platform.KeepsFiles (p : Platform μ) (g : GenerationRequest) : Prop where
  carriesOut : ∀ s s', p.CarriesOut g s s' → s'.files = s.files
  sourceFile : ∀ c s, (p.interpreter.sourceFile c s).state.files = s.files

/-- **Known code leaves the files as they are.** -/
theorem World.keepsFiles (w : World) (g : GenerationRequest) : w.platform.KeepsFiles g where
  carriesOut := by
    intro s s' h
    cases h with
    | importFile => exact Logged.onMachine_files _ _
    | importModule => exact Logged.onMachine_files _ _
    | classIn => exact Logged.onMachine_files _ _
    | nameOf => rfl
    | titleOf => rfl
    | describe => exact Logged.onMachine_files _ _
    | template _ hcompile vars =>
        rw [standard_carriesOut rfl hcompile vars s]
  sourceFile c s := rfl

end TestSkeleton
