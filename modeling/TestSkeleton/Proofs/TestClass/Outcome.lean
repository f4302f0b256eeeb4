import TestSkeleton.Proofs.TestClass.Failure
import TestSkeleton.Proofs.TestClass.Order

set_option autoImplicit false

/-! # When a test class is built

Whatever the renderer, a test class is built just if the class has a name, its eligible methods are
sound and every planned test can be rendered (`exists_build_iff`). Its methods are then those of the
plan as they are rendered (`rendered_of_build`). The plan itself writes nothing
(`PlanStep.written_ofClass`).
-/

namespace TestSkeleton

namespace PlanStep

variable {ε : Type} {className : Text} {render : Renderer ε} {steps : List PlanStep}

/-! ## Results of runs -/

/-- A run that comes to its end has had every test of its plan rendered. -/
theorem renders_of_run {ms : List GeneratedMethod}
    (h : (run className render steps).result = .ok ms) :
    ∀ m ∈ steps.filterMap planned?, ∃ t, (render (m.request className)).result = .ok t := by
  induction steps generalizing ms with
  | nil => simp
  | cons s steps ih =>
      cases s with
      | tell e => exact ih h
      | stop e => cases h
      | method m =>
          rw [run, Logged.result_bind_eq_ok_iff] at h
          obtain ⟨body, hbody, hrest⟩ := h
          obtain ⟨ms', hms', -⟩ := Logged.result_bind_eq_ok_iff.mp hrest
          intro u hu
          rcases List.mem_cons.mp hu with rfl | hu
          · exact ⟨body, Logged.result_mapError_eq_ok_iff.mp hbody⟩
          · exact ih hms' u hu

/-! ## Texts of runs -/

/-- What a step of a plan writes. -/
def written : PlanStep → Text
  | tell e => e.written
  | _ => []

theorem written_ofTags (m : Method) (n : MethodNamer) (tags : List Annotation.Tag) :
    ∀ s ∈ (ofTags m n tags).1, s.written = [] := by
  induction tags generalizing n with
  | nil => simp [ofTags]
  | cons t tags ih =>
      rw [ofTags]
      cases Assertion.ofTag t m.isStatic with
      | error e => simp [written]
      | ok a => simpa [written, Event.written] using ih (n.name m.name).2

theorem written_ofMethod (className : Text) (n : MethodNamer) (m : Method) :
    ∀ s ∈ (ofMethod className n m).1, s.written = [] := by
  rw [ofMethod]
  cases Annotation.extract m.doc with
  | error e => simp [written]
  | ok tags =>
      cases tags with
      | nil => simp [written, Event.written]
      | cons t tags => simpa [written, Event.written] using written_ofTags m n (t :: tags)

theorem written_ofMethods (className : Text) (n : MethodNamer) (ms : List Method) :
    ∀ s ∈ ofMethods className n ms, s.written = [] := by
  induction ms generalizing n with
  | nil => simp [ofMethods]
  | cons m ms ih =>
      intro s hs
      rcases List.mem_append.mp hs with hs | hs
      · exact written_ofMethod className n m s hs
      · exact ih _ s hs

theorem written_ofClass (c : ClassInfo) : ∀ s ∈ ofClass c, s.written = [] := by
  intro s hs
  rcases List.mem_cons.mp hs with rfl | hs
  · rfl
  · exact written_ofMethods c.name .empty c.eligible s hs

end PlanStep

namespace GeneratedClass

variable {ε : Type} {render : Renderer ε} {c : ClassInfo} {o : Options}

/-- **When a test class is built**: if the class has a name, its eligible methods are sound, and the
renderer answers for each planned test. -/
theorem exists_build_iff :
    (∃ g, (build render (some c) o).result = .ok g)
      ↔ c.name ≠ [] ∧ (∀ m ∈ c.eligible, m.IsSound)
        ∧ ∀ p ∈ c.plan, ∃ t, (render (p.request c.name)).result = .ok t := by
  constructor
  · rintro ⟨g, h⟩
    obtain ⟨hname, hsound⟩ := sound_of_build h
    obtain ⟨-, ms, -, hrun⟩ := run_of_build h
    have hfault := PlanStep.findSome?_fault?_ofClass_eq_none_iff.mpr hsound
    refine ⟨hname, hsound, ?_⟩
    rw [← PlanStep.filterMap_planned?_ofClass hfault]
    exact PlanStep.renders_of_run hrun
  · rintro ⟨hname, hsound, hr⟩
    exact ⟨_, build_of_sound hname hsound hr o⟩

theorem rendered_of_build {g : GeneratedClass} (h : (build render (some c) o).result = .ok g) :
    g = ofMethods c o (c.plan.map (PlannedMethod.rendered c.name render)) := by
  obtain ⟨hname, hsound, hr⟩ := exists_build_iff.mp ⟨g, h⟩
  rw [build_of_sound hname hsound hr o] at h
  exact (Except.ok.inj h).symm

end GeneratedClass

end TestSkeleton
