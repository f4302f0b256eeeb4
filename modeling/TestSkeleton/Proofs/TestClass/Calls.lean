import TestSkeleton.Proofs.Step
import TestSkeleton.Proofs.TestClass.Plan

set_option autoImplicit false

/-! # The calls of a renderer

A renderer need not be a function of the request: it may remember what it was asked for. Here a
renderer acts on a state while it answers, and a test class is built with it in the same steps; for
a renderer without memory that is what `build` does (`buildWith_stateful`). A renderer that records
its calls then shows which ones are made. They are the requests of the plan in order, one for each
test, up to a fault of the plan, and do not depend on any answer as long as there is one
(`calls_eq_requests`).
-/

namespace TestSkeleton

/-- A renderer without a memory. -/
def Renderer.stateful {ε : Type} (render : Renderer ε) : StatefulRenderer Unit ε :=
  fun r => .ofExcept (render r).result

namespace StatefulRenderer

variable {σ ε : Type}

/-- The renderer answers every request in every state. -/
def NeverFails (render : StatefulRenderer σ ε) : Prop := ∀ r s, ∃ t, (render r s).result = .ok t

/-- The renderer that records its calls. -/
def recorded (render : StatefulRenderer σ ε) : StatefulRenderer (σ × List RenderRequest) ε :=
  fun r s => ⟨((render r s.1).state, s.2 ++ [r]), (render r s.1).result⟩

end StatefulRenderer

theorem Renderer.NeverFails.stateful {ε : Type} {render : Renderer ε} (h : render.NeverFails) :
    render.stateful.NeverFails := fun r _ => h r

/-- Tells of events in a state with a record of calls. -/
def tellBeside {σ : Type} (tell : Event → σ → σ) (e : Event) (s : σ × List RenderRequest) :
    σ × List RenderRequest := (tell e s.1, s.2)

/-- The test method is the planned one with some body. -/
def GeneratedMethod.Renders (m : GeneratedMethod) (p : PlannedMethod) : Prop :=
  m = p.withBody m.body

/-! ## Runs -/

namespace PlanStep

/-- The requests for the tests of a plan, up to the first stop. -/
def requests (className : Text) : List PlanStep → List RenderRequest
  | [] => []
  | .tell _ :: steps => requests className steps
  | .stop _ :: _ => []
  | .method m :: steps => m.request className :: requests className steps

variable {σ ε : Type} {tell : Event → σ → σ} {className : Text} {render : StatefulRenderer σ ε}
  {steps : List PlanStep} {m : PlannedMethod} {s : σ}

theorem runWith_method_of_error {e : ε} (h : (render (m.request className) s).result = .error e) :
    runWith tell className render (.method m :: steps) s
      = ⟨(render (m.request className) s).state, .error (.render e)⟩ := by
  have hbody : ((render (m.request className)).mapError BuildError.render s).result
      = .error (.render e) := by rw [Step.mapError_apply, h]; rfl
  rw [runWith, Step.bind_of_error hbody]
  rfl

theorem runWith_method_of_ok {body : Text} (h : (render (m.request className) s).result = .ok body) :
    runWith tell className render (.method m :: steps) s
      = ⟨(runWith tell className render steps (render (m.request className) s).state).state,
          (runWith tell className render steps (render (m.request className) s).state).result.map
            (m.withBody body :: ·)⟩ := by
  have hbody : ((render (m.request className)).mapError BuildError.render s).result = .ok body := by
    rw [Step.mapError_apply, h]; rfl
  rw [runWith, Step.bind_of_ok hbody, Step.bind_pure_apply]
  rfl

/-- The steps are the same as those of a renderer without a memory. -/
theorem runWith_stateful (tell : Event → Unit → Unit) (render : Renderer ε) (s : Unit) :
    (runWith tell className render.stateful steps s).result = (run className render steps).result := by
  induction steps with
  | nil => rfl
  | cons step steps ih =>
      cases step with
      | tell e => exact ih
      | stop e => rfl
      | method m =>
          rw [run]
          cases hbody : (render (m.request className)).result with
          | error e =>
              have hfirst : ((render (m.request className)).mapError BuildError.render).result
                  = .error (.render e) := by rw [Logged.result_mapError, hbody]; rfl
              rw [runWith_method_of_error hbody, Logged.result_bind_of_error hfirst]
          | ok body =>
              have hfirst : ((render (m.request className)).mapError BuildError.render).result
                  = .ok body := by rw [Logged.result_mapError, hbody]; rfl
              rw [runWith_method_of_ok hbody, Logged.result_bind_of_ok hfirst,
                Logged.result_bind_pure]
              exact congrArg (Except.map (m.withBody body :: ·)) ih

/-- A run that comes to its end has met no fault, and has made every test of the plan. -/
theorem renders_of_runWith {ms : List GeneratedMethod}
    (h : (runWith tell className render steps s).result = .ok ms) :
    steps.findSome? fault? = none ∧
      List.Forall₂ GeneratedMethod.Renders ms (steps.filterMap planned?) := by
  induction steps generalizing s ms with
  | nil =>
      cases h
      exact ⟨rfl, .nil⟩
  | cons step steps ih =>
      cases step with
      | tell e => exact ih h
      | stop e => cases h
      | method m =>
          cases hbody : (render (m.request className) s).result with
          | error e =>
              rw [runWith_method_of_error hbody] at h
              cases h
          | ok body =>
              rw [runWith_method_of_ok hbody] at h
              obtain ⟨ms', hrest, rfl⟩ := map_eq_ok_iff.mp h
              obtain ⟨hfault, hms'⟩ := ih hrest
              exact ⟨hfault, .cons rfl hms'⟩

/-! ### Calls -/

/-- A run does not notice that its calls are recorded. -/
theorem runWith_recorded (calls : List RenderRequest) :
    (runWith (tellBeside tell) className render.recorded steps (s, calls)).result
      = (runWith tell className render steps s).result := by
  induction steps generalizing s calls with
  | nil => rfl
  | cons step steps ih =>
      cases step with
      | tell e => exact ih calls
      | stop e => rfl
      | method m =>
          cases hbody : (render (m.request className) s).result with
          | error e =>
              have hrecorded : (render.recorded (m.request className) (s, calls)).result = .error e :=
                hbody
              rw [runWith_method_of_error hbody, runWith_method_of_error hrecorded]
          | ok body =>
              have hrecorded : (render.recorded (m.request className) (s, calls)).result = .ok body :=
                hbody
              rw [runWith_method_of_ok hbody, runWith_method_of_ok hrecorded]
              exact congrArg (Except.map (m.withBody body :: ·)) (ih _)

/-- **The calls of a run** in which none fails are the requests of the plan in order. -/
theorem calls_runWith
    (h : ∀ e, (runWith tell className render steps s).result ≠ .error (.render e))
    (calls : List RenderRequest) :
    (runWith (tellBeside tell) className render.recorded steps (s, calls)).state.2
      = calls ++ requests className steps := by
  induction steps generalizing s calls with
  | nil => exact (List.append_nil calls).symm
  | cons step steps ih =>
      cases step with
      | tell e => exact ih h calls
      | stop e => exact (List.append_nil calls).symm
      | method m =>
          cases hbody : (render (m.request className) s).result with
          | error e =>
              -- the run would end with the error of this call
              rw [runWith_method_of_error hbody] at h
              exact absurd rfl (h e)
          | ok body =>
              have hrecorded : (render.recorded (m.request className) (s, calls)).result = .ok body :=
                hbody
              rw [runWith_method_of_ok hbody] at h
              have hrest : ∀ e, (runWith tell className render steps
                  (render (m.request className) s).state).result ≠ .error (.render e) := by
                intro e he
                exact h e (by rw [he]; rfl)
              rw [runWith_method_of_ok hrecorded]
              refine (ih hrest (calls ++ [m.request className])).trans ?_
              rw [List.append_assoc]
              rfl

/-- A renderer that never fails is not what a run fails at. -/
theorem runWith_of_neverFails (h : render.NeverFails) (e : ε) :
    (runWith tell className render steps s).result ≠ .error (.render e) := by
  induction steps generalizing s with
  | nil => exact nofun
  | cons step steps ih =>
      cases step with
      | tell _ => exact ih
      | stop _ => exact nofun
      | method m =>
          obtain ⟨body, hbody⟩ := h (m.request className) s
          rw [runWith_method_of_ok hbody]
          exact fun he => ih (map_eq_error_iff.mp he)

/-- Without a fault, the requests are those for all tests of the plan. -/
theorem requests_of_no_fault (h : steps.findSome? fault? = none) :
    requests className steps = (steps.filterMap planned?).map (·.request className) := by
  induction steps with
  | nil => rfl
  | cons step steps ih =>
      cases step with
      | tell e => exact ih h
      | stop e => cases h
      | method m => exact congrArg _ (ih h)

end PlanStep

/-! ## Test classes -/

namespace GeneratedClass

variable {σ ε : Type} {tell : Event → σ → σ} {render : StatefulRenderer σ ε} {c : ClassInfo}
  {o : Options} {s : σ}

/-- The calls on the way to the test class of a class. -/
def calls (tell : Event → σ → σ) (render : StatefulRenderer σ ε) (c : ClassInfo) (o : Options)
    (s : σ) : List RenderRequest :=
  (buildWith (tellBeside tell) render.recorded (some c) o (s, [])).state.2

theorem buildWith_of_unnamed (h : c.name.isEmpty = true) :
    buildWith tell render (some c) o s = ⟨s, .error .unavailable⟩ := by
  rw [buildWith, if_pos h]
  rfl

theorem buildWith_of_named (h : c.name.isEmpty = false) :
    buildWith tell render (some c) o s
      = ⟨(PlanStep.runWith tell c.name render (PlanStep.ofClass c) s).state,
          (PlanStep.runWith tell c.name render (PlanStep.ofClass c) s).result.map
            (ofMethods c o)⟩ := by
  rw [buildWith, if_neg (by simp [h]), Step.bind_pure_apply]

/-- **The same test class** is built with a renderer that has no memory. -/
theorem buildWith_stateful (tell : Event → Unit → Unit) (render : Renderer ε) (c : ClassInfo)
    (o : Options) (s : Unit) :
    (buildWith tell render.stateful (some c) o s).result = (build render (some c) o).result := by
  rw [build]
  cases hname : c.name.isEmpty with
  | true => rw [buildWith_of_unnamed hname]; rfl
  | false =>
      rw [buildWith_of_named hname, if_neg Bool.false_ne_true, Logged.result_bind_pure,
        PlanStep.runWith_stateful]

/-- Building does not notice that the calls are recorded. -/
theorem buildWith_recorded (calls : List RenderRequest) :
    (buildWith (tellBeside tell) render.recorded (some c) o (s, calls)).result
      = (buildWith tell render (some c) o s).result := by
  cases hname : c.name.isEmpty with
  | true => rw [buildWith_of_unnamed hname, buildWith_of_unnamed hname]
  | false =>
      rw [buildWith_of_named hname, buildWith_of_named hname, PlanStep.runWith_recorded]

theorem runWith_of_buildWith {g : GeneratedClass}
    (h : (buildWith tell render (some c) o s).result = .ok g) :
    c.name.isEmpty = false ∧ ∃ ms, g = ofMethods c o ms
      ∧ (PlanStep.runWith tell c.name render (PlanStep.ofClass c) s).result = .ok ms := by
  cases hname : c.name.isEmpty with
  | true =>
      rw [buildWith_of_unnamed hname] at h
      cases h
  | false =>
      rw [buildWith_of_named hname] at h
      obtain ⟨ms, hrun, hg⟩ := map_eq_ok_iff.mp h
      exact ⟨rfl, ms, hg.symm, hrun⟩

/-- **What comes of a success**: every test of the plan, made in the order of the class. -/
theorem renders_of_buildWith {g : GeneratedClass}
    (h : (buildWith tell render (some c) o s).result = .ok g) :
    ∃ declared, g = ofMethods c o declared ∧ List.Forall₂ GeneratedMethod.Renders declared c.plan := by
  obtain ⟨-, ms, hg, hrun⟩ := runWith_of_buildWith h
  obtain ⟨hfault, hrenders⟩ := PlanStep.renders_of_runWith hrun
  rw [PlanStep.filterMap_planned?_ofClass hfault] at hrenders
  exact ⟨ms, hg, hrenders⟩

/-- **The calls do not depend on the answers**: if none fails, they are the requests of the plan. -/
theorem calls_eq_requests
    (h : ∀ e, (buildWith tell render (some c) o s).result ≠ .error (.render e)) :
    calls tell render c o s
      = if c.name.isEmpty then [] else PlanStep.requests c.name (PlanStep.ofClass c) := by
  rw [calls]
  cases hname : c.name.isEmpty with
  | true => rw [buildWith_of_unnamed hname]; rfl
  | false =>
      rw [buildWith_of_named hname] at h
      rw [buildWith_of_named hname]
      exact PlanStep.calls_runWith (fun e he => h e (map_eq_error_iff.mpr he)) []

/-- A test class has taken one call for each of its tests, in the order of the class. -/
theorem calls_of_buildWith {g : GeneratedClass}
    (h : (buildWith tell render (some c) o s).result = .ok g) :
    calls tell render c o s = c.plan.map (·.request c.name) := by
  obtain ⟨hname, ms, -, hrun⟩ := runWith_of_buildWith h
  obtain ⟨hfault, -⟩ := PlanStep.renders_of_runWith hrun
  have hanswered : ∀ e, (buildWith tell render (some c) o s).result ≠ .error (.render e) := by
    intro e he
    rw [h] at he
    cases he
  rw [calls_eq_requests hanswered, if_neg (by simp [hname]), PlanStep.requests_of_no_fault hfault,
    PlanStep.filterMap_planned?_ofClass hfault]

theorem buildWith_of_neverFails (h : render.NeverFails) (e : ε) :
    (buildWith tell render (some c) o s).result ≠ .error (.render e) := by
  cases hname : c.name.isEmpty with
  | true => rw [buildWith_of_unnamed hname]; exact nofun
  | false =>
      rw [buildWith_of_named hname]
      exact fun he => PlanStep.runWith_of_neverFails h e (map_eq_error_iff.mp he)

end GeneratedClass

end TestSkeleton
