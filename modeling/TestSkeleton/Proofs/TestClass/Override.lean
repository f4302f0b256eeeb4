import TestSkeleton.CommandLine.Run
import TestSkeleton.Proofs.Template.Engine
import TestSkeleton.Proofs.TestClass.Calls
import TestSkeleton.Proofs.TestClass.Outcome

set_option autoImplicit false

/-! # Templates of one's own

What a template says ends up in the bodies of the methods that are rendered from it, and nowhere
else. Two test classes of the same class agree in all but bodies, whatever has rendered them, and
have the same body for a test wherever their renderers give the same answer for it
(`sameBut_of_buildWith`). Two template libraries make a difference only to the tests whose rendering
reads a text on which they differ, or depends on more than texts and variables
(`overrides_only_change_bodies`). That need not be the text of the template itself, which can include
others (`samePart_changes_body`).
-/

namespace TestSkeleton

/-! ## What may differ -/

/-- The methods are the same, with the same body unless the method is one of those that differ. -/
structure GeneratedMethod.SameBut (differs : GeneratedMethod → Prop) (m m' : GeneratedMethod) :
    Prop where
  name : m.name = m'.name
  source : m.source = m'.source
  assertion : m.assertion = m'.assertion
  body : ¬ differs m → m.body = m'.body

/-- The test classes are the same, with as many methods in the same order, but for the bodies of the
methods that differ. -/
structure GeneratedClass.SameBut (differs : GeneratedMethod → Prop) (g g' : GeneratedClass) :
    Prop where
  fields : { g with methods := [] } = { g' with methods := [] }
  methods : List.Forall₂ (GeneratedMethod.SameBut differs) g.methods g'.methods

/-- The template of a test method. -/
def GeneratedMethod.template (m : GeneratedMethod) : TemplateKind :=
  match m.assertion with
  | some a => a.template
  | none => .incomplete

/-- The renderers have only one answer to a request, from whatever states they give it. -/
def RenderRequest.IsSameFor {σ σ' ε ε' : Type} (render : StatefulRenderer σ ε)
    (render' : StatefulRenderer σ' ε') (r : RenderRequest) : Prop :=
  ∀ s s' t t', (render r s).result = .ok t → (render' r s').result = .ok t' → t = t'

/-! ## Any two renderers -/

namespace PlanStep

variable {σ σ' ε ε' : Type} {tell : Event → σ → σ} {tell' : Event → σ' → σ'}
  {render : StatefulRenderer σ ε} {render' : StatefulRenderer σ' ε'} {s : σ} {s' : σ'}
  {className : Text} {steps : List PlanStep}

/-- The test methods are made from one test of a plan, with the same body if the renderers have only
one answer for it. -/
def AreAlike (render : StatefulRenderer σ ε) (render' : StatefulRenderer σ' ε') (className : Text)
    (ps : List PlannedMethod) (m m' : GeneratedMethod) : Prop :=
  ∃ p ∈ ps, m.Renders p ∧ m'.Renders p ∧
    ((p.request className).IsSameFor render render' → m.body = m'.body)

/-- **Two runs through one plan** make the same tests, step by step. -/
theorem areAlike_of_runWith {ms ms' : List GeneratedMethod}
    (h : (runWith tell className render steps s).result = .ok ms)
    (h' : (runWith tell' className render' steps s').result = .ok ms') :
    List.Forall₂ (AreAlike render render' className (steps.filterMap planned?)) ms ms' := by
  induction steps generalizing s s' ms ms' with
  | nil =>
      cases h
      cases h'
      exact .nil
  | cons step steps ih =>
      cases step with
      | tell e => exact ih h h'
      | stop e => cases h
      | method m =>
          cases hbody : (render (m.request className) s).result with
          | error e => rw [runWith_method_of_error hbody] at h; cases h
          | ok body =>
              cases hbody' : (render' (m.request className) s').result with
              | error e => rw [runWith_method_of_error hbody'] at h'; cases h'
              | ok body' =>
                  rw [runWith_method_of_ok hbody] at h
                  rw [runWith_method_of_ok hbody'] at h'
                  obtain ⟨ms, hrest, rfl⟩ := map_eq_ok_iff.mp h
                  obtain ⟨ms', hrest', rfl⟩ := map_eq_ok_iff.mp h'
                  refine .cons ⟨m, List.mem_cons_self, rfl, rfl, fun hsame => ?_⟩ ?_
                  · exact hsame s s' body body' hbody hbody'
                  · refine (ih hrest hrest').imp fun x y ⟨p, hp, hx⟩ => ?_
                    exact ⟨p, List.mem_cons_of_mem _ hp, hx⟩

end PlanStep

namespace GeneratedClass

variable {c : ClassInfo} {o : Options} {differs : GeneratedMethod → Prop}

/-- Putting placeholders last keeps methods together that are the same. -/
theorem sameBut_ofMethods {ms ms' : List GeneratedMethod}
    (h : List.Forall₂ (GeneratedMethod.SameBut differs) ms ms') :
    (ofMethods c o ms).SameBut differs (ofMethods c o ms') := by
  -- whether a method is a placeholder does not depend on its body
  have hsorted : ∀ m m', GeneratedMethod.SameBut differs m m' → m.isIncomplete = m'.isIncomplete :=
    fun m m' hm => by rw [GeneratedMethod.isIncomplete, hm.assertion, GeneratedMethod.isIncomplete]
  refine ⟨rfl, List.rel_append ?_ ?_⟩
  · exact List.rel_filter (fun m m' hm => by simp [hsorted m m' hm]) h
  · exact List.rel_filter (fun m m' hm => by simp [hsorted m m' hm]) h

/-- **Only bodies depend on what renders them**, and they only for tests to which there can be two
answers. -/
theorem sameBut_of_buildWith {σ σ' ε ε' : Type} {tell : Event → σ → σ} {tell' : Event → σ' → σ'}
    {render : StatefulRenderer σ ε} {render' : StatefulRenderer σ' ε'} {s : σ} {s' : σ'}
    {g g' : GeneratedClass} (h : (buildWith tell render (some c) o s).result = .ok g)
    (h' : (buildWith tell' render' (some c) o s').result = .ok g') :
    g.SameBut (fun m => ∃ p ∈ c.plan, m.Renders p ∧ ¬ (p.request c.name).IsSameFor render render')
      g' := by
  obtain ⟨-, ms, rfl, hrun⟩ := runWith_of_buildWith h
  obtain ⟨-, ms', rfl, hrun'⟩ := runWith_of_buildWith h'
  have hfault := (PlanStep.renders_of_runWith hrun).1
  have halike := PlanStep.areAlike_of_runWith hrun hrun'
  rw [PlanStep.filterMap_planned?_ofClass hfault] at halike
  refine sameBut_ofMethods (halike.imp ?_)
  rintro m m' ⟨p, hp, hm, hm', hbody⟩
  rw [hm, hm']
  refine ⟨rfl, rfl, rfl, fun hsame => hbody ?_⟩
  by_contra hne
  exact hsame ⟨p, hp, rfl, hne⟩

end GeneratedClass

/-! ## Two template libraries -/

/-- Renders with the templates of a library, by an engine. -/
def TemplateLibrary.rendererBy {σ : Type} (l : TemplateLibrary) (engine : TemplateEngine σ)
    (tell : Event → σ → σ) : StatefulRenderer σ RenderError := fun r =>
  engine.render (fun file => .ofExcept (l.source file)) tell r.template.name r.bindings

/-- Two libraries may make a difference to a method of the test class of `c`: what rendering it reads,
which is the text of its template and of those that this one makes it read in turn, is not the same
in both, or the rendering acts on what there is outside. -/
def TemplateLibrary.MayDiffer {σ : Type} (l l' : TemplateLibrary) (engine : TemplateEngine σ)
    (c : ClassInfo) (m : GeneratedMethod) : Prop :=
  ∃ p ∈ c.plan, m.Renders p ∧
    ¬ (engine.taskOf (p.request c.name).template.name (p.request c.name).bindings).Agrees
        l.source l'.source

namespace GeneratedClass

/-- **Templates of one's own are local.** If the test class of a class can be built with each of two
template libraries, by whatever engine and from whatever states, the results are the same but for the
bodies of the methods that the libraries may make a difference to. And any two renderers that never
fail, even if they have a memory, are called with the same requests in the same order: with one for
each test in the order of the class, if there is a test class. Recording the calls makes no
difference, and without a memory the test class is that of `build`. -/
theorem overrides_only_change_bodies (c : ClassInfo) (o : Options) :
    (∀ (σ : Type) (engine : TemplateEngine σ) (tell tell' : Event → σ → σ) (l l' : TemplateLibrary)
      (s s' : σ) (g g' : GeneratedClass),
      (buildWith tell (l.rendererBy engine tell) (some c) o s).result = .ok g →
      (buildWith tell' (l'.rendererBy engine tell') (some c) o s').result = .ok g' →
      g.SameBut (l.MayDiffer l' engine c) g') ∧
    (∀ (σ σ' ε ε' : Type) (tell : Event → σ → σ) (tell' : Event → σ' → σ')
      (render : StatefulRenderer σ ε) (render' : StatefulRenderer σ' ε') (s : σ) (s' : σ'),
      render.NeverFails → render'.NeverFails →
      calls tell render c o s = calls tell' render' c o s' ∧
      ∀ g, (buildWith tell render (some c) o s).result = .ok g →
        ∃ declared, g = ofMethods c o declared ∧
          List.Forall₂ GeneratedMethod.Renders declared c.plan ∧
          calls tell render c o s = c.plan.map (·.request c.name)) ∧
    (∀ (σ ε : Type) (tell : Event → σ → σ) (render : StatefulRenderer σ ε) (s : σ),
      (buildWith (tellBeside tell) render.recorded (some c) o (s, [])).result
        = (buildWith tell render (some c) o s).result) ∧
    ∀ (ε : Type) (tell : Event → Unit → Unit) (render : Renderer ε),
      (buildWith tell render.stateful (some c) o ()).result = (build render (some c) o).result := by
  refine ⟨?_, ?_, fun σ ε tell render s => buildWith_recorded [],
    fun ε tell render => buildWith_stateful tell render c o ()⟩
  · intro σ engine tell tell' l l' s s' g g' h h'
    obtain ⟨hfields, hmethods⟩ := sameBut_of_buildWith h h'
    refine ⟨hfields, hmethods.imp fun m m' hm => ⟨hm.name, hm.source, hm.assertion, fun hno => ?_⟩⟩
    refine hm.body ?_
    rintro ⟨p, hp, hrenders, hne⟩
    refine hne fun s s' t t' ht ht' => ?_
    by_contra htext
    refine hno ⟨p, hp, hrenders, fun hagrees => htext ?_⟩
    have hsame := TemplateEngine.result_render_of_agrees hagrees tell tell' s s'
    exact Except.ok.inj (ht.symm.trans (hsame.trans ht'))
  · intro σ σ' ε ε' tell tell' render render' s s' hr hr'
    refine ⟨?_, fun g h => ?_⟩
    · rw [calls_eq_requests (buildWith_of_neverFails hr),
        calls_eq_requests (buildWith_of_neverFails hr')]
    · obtain ⟨declared, hg, hdeclared⟩ := renders_of_buildWith h
      exact ⟨declared, hg, hdeclared, calls_of_buildWith h⟩

/-! ### Another placeholder -/

/-- Templates that are a single text each: this one for placeholders, and `x` for all others. -/
def plainLibrary (placeholder : Text) : TemplateLibrary where
  own names := some (Text.encode (if names = [("Incomplete.py.j2" : Text)] then placeholder else "x"))

/-- Numbers its answers. -/
def numbering : StatefulRenderer Nat Empty := fun _ n => ⟨n + 1, .ok (Text.ofNat n)⟩

/-- Tells nothing. -/
def silent {σ : Type} (_ : Event) (s : σ) : σ := s

/-- Builds a test class with the templates of a library. -/
def builtBy (l : TemplateLibrary) (c : ClassInfo) (o : Options) :
    Except (BuildError RenderError) GeneratedClass :=
  (buildWith silent (l.rendererBy .standard silent) (some c) o ()).result

def morning : Options :=
  ⟨none, { date := ⟨2024, 5, 17⟩, hour := 9, minute := 30, second := 15 }⟩

theorem otherPlaceholder_only_changes_bodies :
    (∃ g g', builtBy (plainLibrary "x") calculator morning = .ok g ∧
      builtBy (plainLibrary "y") calculator morning = .ok g' ∧
      g.SameBut ((plainLibrary "x").MayDiffer (plainLibrary "y") (σ := Unit) .standard calculator) g'
      ∧ g ≠ g') ∧
    calls silent Renderer.templateName.stateful calculator morning ()
      = calls silent numbering calculator morning 0 := by
  obtain ⟨hlibraries, hcalls, -⟩ := overrides_only_change_bodies calculator morning
  have hdiffer : (builtBy (plainLibrary "x") calculator morning).toOption
      ≠ (builtBy (plainLibrary "y") calculator morning).toOption := by
    decide +kernel
  obtain ⟨g, h⟩ : ∃ g, builtBy (plainLibrary "x") calculator morning = .ok g :=
    exists_of_isOk (by decide +kernel)
  obtain ⟨g', h'⟩ : ∃ g, builtBy (plainLibrary "y") calculator morning = .ok g :=
    exists_of_isOk (by decide +kernel)
  refine ⟨⟨g, g', h, h', hlibraries Unit _ _ _ _ _ () () g g' h h', ?_⟩, ?_⟩
  · rintro rfl
    exact hdiffer (congrArg Except.toOption (h.trans h'.symm))
  · exact (hcalls Unit Nat Empty Empty _ _ _ numbering () 0
      Renderer.templateName_neverFails.stateful (fun _ _ => ⟨_, rfl⟩)).1

/-! ### A template that includes another one -/

/-- Templates that include one and the same part. -/
def partLibrary (part : Text) : TemplateLibrary where
  own names := some (Text.encode (if names = [("part.j2" : Text)] then part
    else "\x7b% include \"part.j2\" %\x7d"))

theorem source_partLibrary (k : TemplateKind) (part part' : Text) :
    (partLibrary part).source (templateFile k.name)
      = (partLibrary part').source (templateFile k.name) := by
  cases k <;> rfl

/-- A class with one method. -/
def drawer : ClassInfo where
  name := "Drawer"
  methods := [{ name := "open" }]

theorem samePart_changes_body : ¬ ∀ (l l' : TemplateLibrary) (c : ClassInfo) (o : Options)
    (g g' : GeneratedClass), builtBy l c o = .ok g → builtBy l' c o = .ok g' →
      g.SameBut (fun m => l.source (templateFile m.template.name)
        ≠ l'.source (templateFile m.template.name)) g' := by
  intro h
  obtain ⟨g, hg⟩ : ∃ g, builtBy (partLibrary "x") drawer morning = .ok g :=
    exists_of_isOk (by decide +kernel)
  obtain ⟨g', hg'⟩ : ∃ g, builtBy (partLibrary "y") drawer morning = .ok g :=
    exists_of_isOk (by decide +kernel)
  have hbodies : (builtBy (partLibrary "x") drawer morning).toOption.map
        (·.methods.map (·.body))
      ≠ (builtBy (partLibrary "y") drawer morning).toOption.map (·.methods.map (·.body)) := by
    decide +kernel
  have hsame : g.methods.map (·.body) = g'.methods.map (·.body) := by
    rw [← List.forall₂_eq_eq_eq, List.forall₂_map_left_iff, List.forall₂_map_right_iff]
    refine (h _ _ _ _ g g' hg hg').methods.imp fun m m' hm => hm.body ?_
    exact not_not.mpr (source_partLibrary m.template "x" "y")
  rw [hg, hg'] at hbodies
  exact hbodies (congrArg some hsame)

end GeneratedClass

end TestSkeleton
