import TestSkeleton.CommandLine.Run
import TestSkeleton.Proofs.Assertion.Basic
import TestSkeleton.Proofs.Template.Engine
import TestSkeleton.Proofs.Template.Packaged
import TestSkeleton.Proofs.TestClass.Order
import TestSkeleton.Proofs.Text.Strip

set_option autoImplicit false

/-! # The text of a test class

With the packaged templates, the module of a test class is put together from literal text and from
the values as they are. `ClassInfo.moduleText` says how, without templates, and the main statement
`generate_packaged_eq_moduleText` is that this is what is generated.
-/

namespace TestSkeleton

open Annotation Text TemplatePiece

/-! ## The text of a test -/

/-- The head of a test method: an empty line, the name and a doc comment. -/
def headText (origin className method name : Text) : Text :=
  "\n    def test" ++ name ++ "(self):\n        \"\"\"Generated " ++ origin ++ " " ++ className
    ++ "." ++ method ++ ".\"\"\"\n"

/-- The preface as a comment with an empty line behind it; nothing without a preface. -/
def commentText (preface : Text) : Text :=
  if preface.isEmpty then [] else "        # " ++ preface ++ "\n\n"

/-- A call of the method under test, on the class or on the instance under test. -/
def callText (onClass : Bool) (className method arguments : Text) : Text :=
  (if onClass then className else "self.object") ++ "." ++ method ++ "(" ++ arguments ++ ")"

/-- Whether the methods that a template is for are called on the class. -/
def TemplateKind.isOnClass : TemplateKind → Bool
  | genericStatic | booleanStatic | exceptionStatic => true
  | generic | boolean | exception | incomplete | testClass => false

/-- The lines that make an assertion about a call. Templates that are not for assertions have
none. -/
def Assertion.text (a : Assertion) (call : Text) : Text :=
  match a.template with
  | .generic | .genericStatic =>
    "        self.assert" ++ a.kind.name ++ "(\n            " ++ a.expected ++ ",\n            "
      ++ call ++ ",\n        )\n"
  | .boolean | .booleanStatic => "        self.assert" ++ a.kind.name ++ "(" ++ call ++ ")\n"
  | .exception | .exceptionStatic =>
    "        with self.assertRaises(" ++ a.expected ++ "):\n            " ++ call ++ "\n"
  | .incomplete | .testClass => []

/-- The text of a planned test. -/
def PlannedMethod.text (className : Text) (p : PlannedMethod) : Text :=
  match p.test with
  | some (preface, a) =>
    headText "from @assert for" className p.source.name p.name ++ commentText preface
      ++ a.text (callText a.template.isOnClass className p.source.name a.arguments)
  | none =>
    headText "for" className p.source.name p.name
      ++ "        self.markTestIncomplete(\"This test has not been implemented yet.\")\n"

/-! ## The text of a module -/

/-- The text of a module up to the methods of its class. -/
def frameText (version date time namespaceDeclaration testClassName className
    constructorArguments : Text) : Text :=
  "\"\"\"Generated by docassert " ++ version ++ " on " ++ date ++ " at " ++ time ++ ".\"\"\"\n"
    ++ namespaceDeclaration ++ "\nfrom docassert.testing import SkeletonTestCase\n\n\nclass "
    ++ testClassName ++ "(SkeletonTestCase):\n    \"\"\"Tests for " ++ className
    ++ ".\"\"\"\n\n    def setUp(self):\n        self.object = " ++ className ++ "("
    ++ constructorArguments ++ ")\n"

/-- The plan of a class with the placeholders last. -/
def ClassInfo.orderedPlan (c : ClassInfo) : List PlannedMethod :=
  c.plan.filter (·.test.isSome) ++ c.plan.filter (·.test.isNone)

/-- The text of the module with the tests of a class. -/
def ClassInfo.moduleText (c : ClassInfo) (o : GeneratedClass.Options) : Text :=
  frameText version (o.timestamp.date.hyphenated 1) o.timestamp.clock (GeneratedClass.importOf c)
      (o.nameFor c.name) c.name (constructorArguments c.doc)
    ++ if c.plan.isEmpty then []
      else stripEnd (c.orderedPlan.flatMap (PlannedMethod.text c.name)) ++ ['\n']

/-! ## Rendering the parts -/

/-- The values tell what test this is. -/
structure Bindings.IsTest (vars : Bindings) (className method name : Text) : Prop where
  className : vars.IsText "className" className
  method : vars.IsText "origMethodName" method
  name : vars.IsText "methodName" name

/-- The values tell what the test asserts. -/
structure Bindings.IsAssertion (vars : Bindings) (preface : Text) (a : Assertion) : Prop where
  preface : vars.IsText "preface" preface
  arguments : vars.IsText "arguments" a.arguments
  assertion : vars.IsText "assertion" a.kind.name
  expected : vars.IsText "expected" a.expected

section Parts

variable {σ : Type} {part : Text → TemplateTask σ} {vars : Bindings}
  {className method name preface : Text} {a : Assertion}

theorem renderAll_headPieces (ht : vars.IsTest className method name) (origin behind : Text) :
    renderAll part vars (TemplateKind.headPieces origin behind)
      = .text (headText origin className method name ++ behind) := by
  unfold TemplateKind.headPieces headText
  rw [renderAll_text_name_cons ht.name (renderAll_text_name_cons ht.className
    (renderAll_text_name_cons ht.method renderAll_text))]
  repeat rw [List.append_assoc]

theorem renderAll_commentPieces (ha : vars.IsAssertion preface a) :
    renderAll part vars TemplateKind.commentPieces = .text (commentText preface) := by
  unfold TemplateKind.commentPieces
  rw [renderAll_branch_cons ha.preface (renderAll_text_name_cons ha.preface renderAll_text)
    renderAll_nil renderAll_nil, commentText, List.append_nil, List.append_assoc]

theorem renderAll_receiverPieces (ht : vars.IsTest className method name) (onClass : Bool)
    (before : Text) :
    renderAll part vars (TemplateKind.receiverPieces before onClass)
      = .text (before ++ ((if onClass then className else "self.object") ++ ".")) := by
  cases onClass with
  | true =>
      unfold TemplateKind.receiverPieces
      exact renderAll_text_name_cons ht.className renderAll_text
  | false => exact renderAll_text

theorem renderAll_callPieces (ht : vars.IsTest className method name)
    (ha : vars.IsAssertion preface a) (onClass : Bool) (before behind : Text) :
    renderAll part vars (TemplateKind.callPieces onClass before behind)
      = .text (before ++ callText onClass className method a.arguments ++ behind) := by
  unfold TemplateKind.callPieces callText
  rw [renderAll_append_of_ok (renderAll_receiverPieces ht onClass before)
    (renderAll_name_cons ht.method (renderAll_text_name_cons ha.arguments renderAll_text))]
  repeat rw [List.append_assoc]

/-- A test with an assertion has its head, its comment and then what stands around the call. -/
theorem renderAll_assertionPieces (ht : vars.IsTest className method name)
    (ha : vars.IsAssertion preface a) {front : Template} {u : Text}
    (hfront : renderAll part vars front = .text u) (onClass : Bool) (before behind : Text) :
    renderAll part vars (TemplateKind.assertionPieces
        (front ++ TemplateKind.callPieces onClass before behind))
      = .text (headText "from @assert for" className method name ++ commentText preface
          ++ (u ++ before ++ callText onClass className method a.arguments ++ behind)) := by
  unfold TemplateKind.assertionPieces
  rw [renderAll_append_of_ok (renderAll_headPieces ht _ [])
    (renderAll_append_of_ok (renderAll_commentPieces ha)
      (renderAll_append_of_ok hfront (renderAll_callPieces ht ha onClass before behind))),
    List.append_nil]
  repeat rw [List.append_assoc]

/-- **The template of an assertion** makes a test with the text of the assertion. -/
theorem renderAll_pieces (ht : vars.IsTest className method name)
    (ha : vars.IsAssertion preface a) (hkind : a.template ≠ .incomplete ∧ a.template ≠ .testClass) :
    renderAll part vars a.template.pieces
      = .text (headText "from @assert for" className method name ++ commentText preface
          ++ a.text (callText a.template.isOnClass className method a.arguments)) := by
  have hname : renderAll part vars [.text "        self.assert", .value (.name "assertion")]
      = .text ("        self.assert" ++ a.kind.name) := by
    rw [renderAll_text_name_cons ha.assertion renderAll_nil, List.append_nil]
  have hexpected (before : Text) : renderAll part vars [.text before, .value (.name "expected")]
      = .text (before ++ a.expected) := by
    rw [renderAll_text_name_cons ha.expected renderAll_nil, List.append_nil]
  have hcompared := renderAll_append_of_ok hname (hexpected "(\n            ")
  rw [← List.append_assoc] at hcompared
  -- one statement for each shape, for both receivers at once
  have hgeneric := renderAll_assertionPieces ht ha hcompared
  have hboolean := renderAll_assertionPieces ht ha hname
  have hexception := renderAll_assertionPieces ht ha (hexpected "        with self.assertRaises(")
  unfold Assertion.text
  cases htemplate : a.template with
  | generic => exact hgeneric false _ _
  | genericStatic => exact hgeneric true _ _
  | boolean => exact hboolean false _ _
  | booleanStatic => exact hboolean true _ _
  | exception => exact hexception false _ _
  | exceptionStatic => exact hexception true _ _
  | incomplete => exact absurd htemplate hkind.1
  | testClass => exact absurd htemplate hkind.2

end Parts

/-! ## Rendering requests -/

/-- The values that a packaged template is rendered with for a request. -/
def RenderRequest.values (r : RenderRequest) : Bindings :=
  TemplateEngine.valuesIn (templateFile r.template.name) r.bindings

/-- A packaged template says what its pieces say. -/
theorem result_renderer_packaged {r : RenderRequest} {t : Text}
    (hown : r.bindings.lookup TemplateEngine.ownName = none)
    (h : ∀ part : Text → TemplateTask (List Event),
      renderAll part r.values r.template.pieces = .text t) :
    (TemplateLibrary.packaged.renderer r).result = .ok t := by
  have hrender (part : Text → TemplateTask (List Event)) :
      r.template.pieces.render part r.values = .text t :=
    (Template.render_eq_renderAll (TemplateKind.hasAsciiNames_pieces r.template)).trans (h part)
  have hsource : (Step.ofExcept (TemplateLibrary.packaged.source (templateFile r.template.name))
      ([] : List Event)).result = .ok r.template.packagedText :=
    TemplateLibrary.source_packaged r.template
  have hcompile := TemplateEngine.compile_standard_of_ok (σ := List Event)
    (TemplateLibrary.ofText_packagedText r.template) (templateFile r.template.name)
  rw [TemplateLibrary.renderer, TemplateLibrary.render, TemplateEngine.render_of_ok hsource hcompile,
    Step.mapError_apply, TemplateEngine.standardTask, hown, Option.isSome_none,
    if_neg Bool.false_ne_true, TemplateEngine.renderNested_of_text (by decide) hrender]
  rfl

/-- The test of a plan is a placeholder, or its template is one for assertions. -/
def PlannedMethod.HasTemplate (p : PlannedMethod) : Prop :=
  ∀ x ∈ p.test, x.2.template ≠ .incomplete ∧ x.2.template ≠ .testClass

theorem Demand.hasTemplate_planned (d : Demand) (name : Text) : (d.planned name).HasTemplate := by
  intro x hx
  obtain ⟨t, -, hx⟩ := Option.bind_eq_some_iff.mp hx
  obtain ⟨a, ha, rfl⟩ := Option.map_eq_some_iff.mp hx
  obtain ⟨u, -, hu⟩ := Option.bind_eq_some_iff.mp ha
  cases htag : Assertion.ofTag u d.method.isStatic with
  | error e => rw [htag] at hu; cases hu
  | ok b =>
      rw [htag] at hu
      cases hu
      exact Assertion.template_ne_of_ofTag htag

theorem hasTemplate_of_mem_planOf {n : MethodNamer} {ds : List Demand} {p : PlannedMethod}
    (hp : p ∈ planOf n ds) : p.HasTemplate := by
  induction ds generalizing n with
  | nil => cases hp
  | cons d ds ih =>
      rw [planOf_cons] at hp
      rcases List.mem_cons.mp hp with rfl | hp
      · exact d.hasTemplate_planned _
      · exact ih hp

/-- **A planned test is rendered as its text.** -/
theorem PlannedMethod.result_renderer_packaged {p : PlannedMethod} (hp : p.HasTemplate)
    (className : Text) :
    (TemplateLibrary.packaged.renderer (p.request className)).result = .ok (p.text className) := by
  have ht : (p.request className).values.IsTest className p.source.name p.name := by
    unfold request
    cases p.test <;> exact ⟨rfl, rfl, rfl⟩
  obtain ⟨name, source, test⟩ := p
  cases test with
  | none => exact TestSkeleton.result_renderer_packaged rfl fun _ => renderAll_headPieces ht _ _
  | some test =>
      obtain ⟨preface, a⟩ := test
      have ha : ((mk name source (some (preface, a))).request className).values.IsAssertion
          preface a := ⟨rfl, rfl, rfl, rfl⟩
      exact TestSkeleton.result_renderer_packaged rfl fun _ => renderAll_pieces ht ha (hp _ rfl)

/-- **A test class is rendered as its frame and its methods.** -/
theorem GeneratedClass.result_renderer_packaged (g : GeneratedClass) :
    (TemplateLibrary.packaged.renderer g.request).result
      = .ok (frameText g.version g.date g.time g.namespaceDeclaration g.testClassName g.className
          g.constructorArguments
        ++ if g.methodsSource.isEmpty then [] else g.methodsSource ++ ['\n']) := by
  have hversion : g.request.values.IsText "version" g.version := rfl
  have hdate : g.request.values.IsText "date" g.date := rfl
  have htime : g.request.values.IsText "time" g.time := rfl
  have hnamespace : g.request.values.IsText "namespace_declaration" g.namespaceDeclaration := rfl
  have hname : g.request.values.IsText "testClassName" g.testClassName := rfl
  have hclass : g.request.values.IsText "className" g.className := rfl
  have harguments : g.request.values.IsText "constructorArgs" g.constructorArguments := rfl
  have hmethods : g.request.values.IsText "methods" g.methodsSource := rfl
  refine TestSkeleton.result_renderer_packaged rfl fun part => ?_
  have hend : renderAll part g.request.values
        [.branch (.name "methods") [.text [], .value (.name "methods"), .text "\n"] []]
      = .text ((if g.methodsSource.isEmpty then [] else [] ++ (g.methodsSource ++ ['\n'])) ++ []) :=
    renderAll_branch_cons hmethods (renderAll_text_name_cons hmethods renderAll_text)
      renderAll_nil renderAll_nil
  show renderAll part _ TemplateKind.testClassPieces = _
  unfold TemplateKind.testClassPieces frameText
  rw [renderAll_text_name_cons hversion (renderAll_text_name_cons hdate (renderAll_text_name_cons
    htime (renderAll_text_name_cons hnamespace (renderAll_text_name_cons hname
    (renderAll_text_name_cons hclass (renderAll_text_name_cons hclass
    (renderAll_text_name_cons harguments (renderAll_text_cons hend))))))))]
  rw [List.nil_append, List.append_nil]
  repeat rw [List.append_assoc]

/-! ## The generated module -/

theorem mem_headText (origin className method name : Text) :
    'd' ∈ headText origin className method name := by
  unfold headText
  repeat refine List.mem_append_left _ ?_
  decide

theorem PlannedMethod.not_allBlank_text (className : Text) (p : PlannedMethod) :
    ¬ AllBlank (p.text className) := by
  have hmem : 'd' ∈ p.text className := by
    unfold text
    cases p.test with
    | none => exact List.mem_append_left _ (mem_headText _ _ _ _)
    | some test =>
        exact List.mem_append_left _ (List.mem_append_left _ (mem_headText _ _ _ _))
  intro h
  exact absurd (h 'd' hmem) (by decide)

theorem exists_frameText_eq (version date time namespaceDeclaration testClassName className
    constructorArguments : Text) :
    ∃ before : Text, frameText version date time namespaceDeclaration testClassName className
      constructorArguments = before ++ [')'] ++ ['\n'] := by
  have hend : (")\n" : Text) = [')'] ++ ['\n'] := rfl
  unfold frameText
  rw [hend, ← List.append_assoc]
  exact ⟨_, rfl⟩

theorem ends_with_one_newline {s t : Text} (h : ¬ AllBlank t) :
    ∃ before : Text, s ++ (stripEnd t ++ ['\n']) = before ++ ['\n']
      ∧ before.getLast? ≠ some '\n' := by
  refine ⟨s ++ stripEnd t, (List.append_assoc _ _ _).symm, fun hlast => ?_⟩
  have hne : stripEnd t ≠ [] := fun hnil => h (stripEnd_eq_nil_iff.mp hnil)
  rw [List.getLast?_append_of_ne_nil _ hne] at hlast
  exact absurd (isBlank_getLast?_stripEnd hlast) (by decide)

namespace ClassInfo

variable (c : ClassInfo) (o : GeneratedClass.Options)

theorem mem_orderedPlan {p : PlannedMethod} : p ∈ c.orderedPlan ↔ p ∈ c.plan := by
  rw [orderedPlan, List.mem_append, List.mem_filter, List.mem_filter]
  cases p.test <;> simp

theorem orderedPlan_ne_nil (h : c.plan ≠ []) : c.orderedPlan ≠ [] := by
  obtain ⟨p, ps, hp⟩ := List.exists_cons_of_ne_nil h
  have hmem : p ∈ c.orderedPlan := c.mem_orderedPlan.mpr (hp ▸ List.mem_cons_self)
  exact List.ne_nil_of_mem hmem

theorem not_allBlank_flatMap_text (h : c.plan ≠ []) :
    ¬ AllBlank (c.orderedPlan.flatMap (PlannedMethod.text c.name)) := by
  obtain ⟨p, ps, hp⟩ := List.exists_cons_of_ne_nil (c.orderedPlan_ne_nil h)
  rw [hp, List.flatMap_cons, allBlank_append]
  exact fun hblank => p.not_allBlank_text c.name hblank.1

/-- A rendered test is never blank, so that the template sees methods just if there are any. -/
theorem isEmpty_stripEnd_flatMap_text :
    (stripEnd (c.orderedPlan.flatMap (PlannedMethod.text c.name))).isEmpty = c.plan.isEmpty := by
  by_cases h : c.plan = []
  · rw [orderedPlan, h]
    rfl
  · rw [List.isEmpty_eq_false_iff.mpr h, List.isEmpty_eq_false_iff]
    exact fun hnil => c.not_allBlank_flatMap_text h (stripEnd_eq_nil_iff.mp hnil)

/-- **The text of a module ends in one line feed.** -/
theorem moduleText_ends_with_one_newline :
    ∃ before : Text, c.moduleText o = before ++ ['\n'] ∧ before.getLast? ≠ some '\n' := by
  unfold moduleText
  by_cases h : c.plan = []
  · obtain ⟨before, hbefore⟩ := exists_frameText_eq version (o.timestamp.date.hyphenated 1)
      o.timestamp.clock (GeneratedClass.importOf c) (o.nameFor c.name) c.name
      (constructorArguments c.doc)
    rw [h, List.isEmpty_nil, if_pos rfl, List.append_nil]
    refine ⟨before ++ [')'], hbefore, fun hlast => ?_⟩
    rw [List.getLast?_concat] at hlast
    exact absurd hlast (by decide)
  · rw [List.isEmpty_eq_false_iff.mpr h]
    exact ends_with_one_newline (c.not_allBlank_flatMap_text h)

end ClassInfo

namespace GeneratedClass

variable {c : ClassInfo}

theorem rendered_packaged {p : PlannedMethod} (hp : p ∈ c.plan) :
    p.rendered c.name TemplateLibrary.packaged.renderer = p.withBody (p.text c.name) := by
  have hresult := PlannedMethod.result_renderer_packaged (hasTemplate_of_mem_planOf hp) c.name
  rw [PlannedMethod.rendered, Renderer.answer, hresult]
  rfl

theorem isIncomplete_withBody (p : PlannedMethod) (body : Text) :
    (p.withBody body).isIncomplete = p.test.isNone := Option.isNone_map

/-- The bodies of the rendered methods, in the order of the test class. -/
theorem methodsSource_packaged (o : Options) :
    (ofMethods c o (c.plan.map (PlannedMethod.rendered c.name
        TemplateLibrary.packaged.renderer))).methodsSource
      = stripEnd (c.orderedPlan.flatMap (PlannedMethod.text c.name)) := by
  have hbodies : c.plan.map (PlannedMethod.rendered c.name TemplateLibrary.packaged.renderer)
      = c.plan.map fun p => p.withBody (p.text c.name) :=
    List.map_congr_left fun p hp => rendered_packaged hp
  have htests : (fun x : GeneratedMethod => !x.isIncomplete)
      ∘ (fun p : PlannedMethod => p.withBody (p.text c.name)) = fun p => p.test.isSome := by
    funext p
    rw [Function.comp_apply, isIncomplete_withBody, Option.not_isNone]
  have hplaceholders : (fun x : GeneratedMethod => x.isIncomplete)
      ∘ (fun p : PlannedMethod => p.withBody (p.text c.name)) = fun p => p.test.isNone :=
    funext fun p => isIncomplete_withBody p _
  rw [methodsSource, ofMethods, hbodies, List.filter_map, List.filter_map, htests, hplaceholders,
    ← List.map_append, List.flatMap_map]
  rfl

theorem generate_of_sound (hname : c.name ≠ []) (hsound : ∀ m ∈ c.eligible, m.IsSound)
    (o : Options) :
    (generate TemplateLibrary.packaged.renderer (some c) o).result = .ok (c.moduleText o) := by
  have hr : ∀ p ∈ c.plan, ∃ t,
      (TemplateLibrary.packaged.renderer (p.request c.name)).result = .ok t := fun p hp =>
    ⟨_, PlannedMethod.result_renderer_packaged (hasTemplate_of_mem_planOf hp) c.name⟩
  have hbuild := build_of_sound hname hsound hr o
  rw [generate, Logged.result_bind_of_ok hbuild, Logged.result_mapError, result_renderer_packaged,
    methodsSource_packaged, c.isEmpty_stripEnd_flatMap_text]
  rfl

/-- **The text of a generated module.** With the packaged templates, a module is generated just for
a named class of sound methods, and its text is that of literal text and values one after the other,
whatever the values look like. The lines of an assertion are the same for calls on classes as for
those on instances but for the call itself, and those of a Boolean assertion do not depend on the
expected value. The text ends in one line feed. -/
theorem generate_packaged_eq_moduleText (c : ClassInfo) (o : Options) :
    (∀ text, (generate TemplateLibrary.packaged.renderer (some c) o).result = .ok text
      ↔ c.name ≠ [] ∧ (∀ m ∈ c.eligible, m.IsSound) ∧ text = c.moduleText o) ∧
    (∀ (a : Assertion) (call : Text),
      { a with template := a.template.static }.text call = a.text call) ∧
    (∀ (a : Assertion) (expected call : Text),
      { a with template := .boolean, expected := expected }.text call
        = { a with template := .boolean }.text call) ∧
    (∃ before : Text, c.moduleText o = before ++ ['\n'] ∧ before.getLast? ≠ some '\n') := by
  refine ⟨fun text => ⟨fun h => ?_, ?_⟩, fun a call => ?_, fun _ _ _ => rfl,
    c.moduleText_ends_with_one_newline o⟩
  · obtain ⟨g, hbuild, -⟩ := Logged.result_bind_eq_ok_iff.mp h
    obtain ⟨hname, hsound⟩ := sound_of_build hbuild
    rw [generate_of_sound hname hsound] at h
    exact ⟨hname, hsound, (Except.ok.inj h).symm⟩
  · rintro ⟨hname, hsound, rfl⟩
    exact generate_of_sound hname hsound o
  · obtain ⟨kind, arguments, expected, template, isStatic⟩ := a
    cases template <;> rfl

/-- A class whose values look like parts of templates. -/
def box : ClassInfo where
  name := "Box"
  module? := some "boxes"
  methods := [
    { name := "get", doc := "@assert Shows \x7b\x7b preface \x7d\x7d.\n('\x7b% if %\x7d') == 1" },
    { name := "clear" },
    { name := "of", isStatic := true, doc := "@assert (2) empty" }]

theorem box_module :
    (generate TemplateLibrary.packaged.renderer (some box)
        ⟨none, { date := ⟨2024, 5, 17⟩, hour := 9, minute := 30, second := 15 }⟩).result
      = .ok (unlines [
        "\"\"\"Generated by docassert 0.1.0 on 2024-05-17 at 09:30:15.\"\"\"",
        "",
        "from boxes import Box",
        "",
        "from docassert.testing import SkeletonTestCase",
        "",
        "",
        "class BoxTest(SkeletonTestCase):",
        "    \"\"\"Tests for Box.\"\"\"",
        "",
        "    def setUp(self):",
        "        self.object = Box()",
        "",
        "    def testGet(self):",
        "        \"\"\"Generated from @assert for Box.get.\"\"\"",
        "        # Shows \x7b\x7b preface \x7d\x7d.",
        "",
        "        self.assertEquals(",
        "            1,",
        "            self.object.get('\x7b% if %\x7d'),",
        "        )",
        "",
        "    def testOf(self):",
        "        \"\"\"Generated from @assert for Box.of.\"\"\"",
        "        self.assertEmpty(Box.of(2))",
        "",
        "    def testClear(self):",
        "        \"\"\"Generated for Box.clear.\"\"\"",
        "        self.markTestIncomplete(\"This test has not been implemented yet.\")",
        ""]) := by
  refine ((generate_packaged_eq_moduleText _ _).1 _).mpr ⟨List.cons_ne_nil _ _, by decide, ?_⟩
  decide +kernel

end GeneratedClass

end TestSkeleton
