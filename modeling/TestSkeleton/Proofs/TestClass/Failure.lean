import TestSkeleton.Proofs.TestClass.Plan

set_option autoImplicit false

/-! # How generation fails

With a renderer that answers every request, the only errors are those of doc comments and tags, and
the one that is raised is that of the first eligible method at fault. Methods that are not eligible
play no part. The main statement is `build_eq_error_iff_first_fault`.
-/

namespace TestSkeleton

open Annotation

/-! ## The first fault -/

namespace Method

theorem not_isSound_iff {m : Method} :
    ¬ m.IsSound ↔ (∃ e, extract m.doc = .error e)
      ∨ ∃ tags t e, extract m.doc = .ok tags ∧ t ∈ tags
          ∧ Assertion.ofTag t m.isStatic = .error e := by
  unfold IsSound
  cases extract m.doc with
  | error e => simp
  | ok tags =>
      have hfails : ∀ t, (¬ ∃ a, Assertion.ofTag t m.isStatic = .ok a)
          ↔ ∃ e, Assertion.ofTag t m.isStatic = .error e := by
        intro t
        cases Assertion.ofTag t m.isStatic <;> simp
      simp [hfails]

/-- The first fault among methods is that of the first method that is not sound. -/
theorem findSome?_fault?_eq_some_iff {ms : List Method} {p : PlanError} :
    ms.findSome? fault? = some p
      ↔ ∃ before m after, ms = before ++ m :: after ∧ (∀ u ∈ before, u.IsSound)
          ∧ m.FailsWith p := by
  simp only [List.findSome?_eq_some_iff, fault?_eq_some_iff, fault?_eq_none_iff]
  constructor
  · rintro ⟨before, m, after, hms, hm, hbefore⟩
    exact ⟨before, m, after, hms, hbefore, hm⟩
  · rintro ⟨before, m, after, hms, hbefore, hm⟩
    exact ⟨before, m, after, hms, hm, hbefore⟩

end Method

/-! ## Eligible methods -/

namespace ClassInfo

/-- The class without the methods that are not eligible. -/
def eligibleOnly (c : ClassInfo) : ClassInfo := { c with methods := c.eligible }

theorem eligible_eligibleOnly (c : ClassInfo) : c.eligibleOnly.eligible = c.eligible := by
  simp [eligibleOnly, eligible]

end ClassInfo

/-! ## Errors of a run -/

namespace GeneratedClass

variable {ε : Type} {render : Renderer ε} {c : ClassInfo}

/-- With a renderer that never fails, a named class is generated unless one of its eligible methods
is at fault. -/
theorem build_of_neverFails (hr : render.NeverFails) (hname : c.name ≠ []) (o : Options) :
    (∃ p, c.eligible.findSome? Method.fault? = some p
        ∧ (build render (some c) o).result = .error (.plan p))
      ∨ c.eligible.findSome? Method.fault? = none
        ∧ ∃ g, (build render (some c) o).result = .ok g := by
  rw [result_build hname, PlanStep.run_of_renders c.name render _ fun m _ => hr _,
    PlanStep.findSome?_fault?_ofClass]
  cases c.eligible.findSome? Method.fault? with
  | some p => exact Or.inl ⟨p, rfl, rfl⟩
  | none => exact Or.inr ⟨rfl, _, rfl⟩

/-- **Only eligible methods matter**: other methods can be put in place of those that are not
eligible. -/
theorem build_result_congr (c c' : ClassInfo) (hname : c'.name = c.name)
    (hmodule : c'.module? = c.module?) (hdoc : c'.doc = c.doc)
    (heligible : c'.eligible = c.eligible) (o : Options) :
    (build render (some c') o).result = (build render (some c) o).result := by
  have hrun : (PlanStep.run c.name render (PlanStep.ofClass c')).result
      = (PlanStep.run c.name render (PlanStep.ofClass c)).result := by
    rw [PlanStep.ofClass, PlanStep.ofClass, PlanStep.run, PlanStep.run, Logged.result_after,
      Logged.result_after, hname, heligible]
  have hclass : ofMethods c' o = ofMethods c o := by
    funext ms
    rw [ofMethods, ofMethods, importOf, importOf, hname, hmodule, hdoc]
  by_cases hempty : c.name = []
  · rw [result_build_of_unnamed hempty, result_build_of_unnamed (hname.trans hempty)]
  · rw [result_build hempty, result_build (hname ▸ hempty), hname, hrun, hclass]

/-- The module with the test class depends on no other methods either. -/
theorem generate_result_congr (c c' : ClassInfo) (hname : c'.name = c.name)
    (hmodule : c'.module? = c.module?) (hdoc : c'.doc = c.doc)
    (heligible : c'.eligible = c.eligible) (o : Options) :
    (generate render (some c') o).result = (generate render (some c) o).result := by
  have hbuild : (build render (some c') o).result = (build render (some c) o).result :=
    build_result_congr c c' hname hmodule hdoc heligible o
  unfold generate
  cases h : (build render (some c) o).result with
  | ok g => rw [Logged.result_bind_of_ok (hbuild.trans h), Logged.result_bind_of_ok h]
  | error e => rw [Logged.result_bind_of_error (hbuild.trans h), Logged.result_bind_of_error h]

theorem generate_eligibleOnly_result (c : ClassInfo) (o : Options) :
    (generate render (some c.eligibleOnly) o).result = (generate render (some c) o).result :=
  generate_result_congr c c.eligibleOnly rfl rfl rfl c.eligible_eligibleOnly o

/-- **How generation fails.** It does just if the doc comment of an eligible method cannot be read
or holds a tag that asks for no assertion. The error is that of the first such method in the order of
the class: of reading its doc comment, even if a tag before the fault is one without an assertion,
and else of the first of its tags without one. Without the methods that are not eligible the result
is the same. -/
theorem build_eq_error_iff_first_fault (hr : render.NeverFails) (hname : c.name ≠ [])
    (o : Options) :
    ((∃ e, (build render (some c) o).result = .error e)
      ↔ ∃ m ∈ c.eligible, (∃ e, extract m.doc = .error e)
          ∨ ∃ tags t e, extract m.doc = .ok tags ∧ t ∈ tags
              ∧ Assertion.ofTag t m.isStatic = .error e) ∧
    (∀ e, (build render (some c) o).result = .error e
      ↔ ∃ before m after p, c.eligible = before ++ m :: after ∧ (∀ u ∈ before, u.IsSound)
          ∧ m.FailsWith p ∧ e = .plan p) ∧
    (build render (some c.eligibleOnly) o).result
      = (build render (some c) o).result := by
  have herror : ∀ e, (build render (some c) o).result = .error e
      ↔ ∃ p, c.eligible.findSome? Method.fault? = some p ∧ e = .plan p := by
    intro e
    rcases build_of_neverFails hr hname o with ⟨p, hfault, hresult⟩ | ⟨hfault, g, hresult⟩
    · rw [hresult, hfault]
      simp [eq_comm]
    · rw [hresult, hfault]
      simp
  refine ⟨?_, fun e => ?_, build_result_congr c c.eligibleOnly rfl rfl rfl
    c.eligible_eligibleOnly o⟩
  · simp only [herror, ← Method.not_isSound_iff, ← Method.fault?_eq_none_iff]
    constructor
    · rintro ⟨e, p, hfault, -⟩
      obtain ⟨before, m, after, hms, hm, -⟩ := List.findSome?_eq_some_iff.mp hfault
      exact ⟨m, by rw [hms]; simp, by rw [hm]; simp⟩
    · rintro ⟨m, hm, hfault⟩
      cases h : c.eligible.findSome? Method.fault? with
      | some p => exact ⟨_, p, rfl, rfl⟩
      | none => exact absurd (List.findSome?_eq_none_iff.mp h m hm) hfault
  · rw [herror]
    simp only [Method.findSome?_fault?_eq_some_iff]
    constructor
    · rintro ⟨p, ⟨before, m, after, hms, hbefore, hm⟩, he⟩
      exact ⟨before, m, after, p, hms, hbefore, hm, he⟩
    · rintro ⟨before, m, after, p, hms, hbefore, hm, he⟩
      exact ⟨p, ⟨before, m, after, hms, hbefore, hm⟩, he⟩

/-- A class in which the first fault is that of `sub`: its doc comment ends inside of a tag, behind
one whose operator is unknown. The tag of `mul` is at fault too, and a private method comes
first. -/
def faultyClass : ClassInfo where
  name := "Calculator"
  methods := [
    { name := "_carry", isPublic := false, doc := "@assert" },
    { name := "add", doc := "@assert (1, 2) == 3" },
    { name := "sub", doc := "@assert (2, 1) minus 1\n@assert unfinished" },
    { name := "mul", doc := "@assert (2, 3)" }]

theorem faultyClass_fails_at_sub :
    Renderer.templateName.NeverFails ∧ faultyClass.name ≠ [] ∧
    (build Renderer.templateName (some faultyClass)
        ⟨none, { date := ⟨2024, 5, 17⟩, hour := 9, minute := 30, second := 15 }⟩).result
      = .error (.plan (.missingExpression ⟨"@assert unfinished"⟩)) := by
  refine ⟨Renderer.templateName_neverFails, List.cons_ne_nil _ _, ?_⟩
  refine ((build_eq_error_iff_first_fault Renderer.templateName_neverFails
    (List.cons_ne_nil _ _) _).2.1 _).mpr ?_
  exact ⟨_, _, _, _, show faultyClass.eligible = [_] ++ _ :: [_] from rfl, by decide,
    .reading rfl, rfl⟩

end GeneratedClass

end TestSkeleton
