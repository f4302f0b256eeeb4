import TestSkeleton.Proofs.Machine
import TestSkeleton.Proofs.TestClass.Calls
import TestSkeleton.Proofs.TestClass.Outcome

set_option autoImplicit false

/-! # Building with a renderer that acts

A renderer that acts on a state can do so on any call, and a test class is built nonetheless in the
same steps: what telling and rendering do to the state, building does (`generateWith_keeps`). It
fails just for a class without a name, for an eligible method in error, or for a call that fails
(`exists_buildWith_error_iff`), and an error of the plan is that of the first method at fault
(`first_fault_of_buildWith`). A renderer whose calls are told on a machine leads to the test class
that is built without a state (`generateWith_onMachine`).
-/

namespace TestSkeleton

namespace PlanStep

variable {σ ε : Type} {tell : Event → σ → σ} {className : Text} {render : StatefulRenderer σ ε}
  {steps : List PlanStep} {s : σ}

/-- What telling and rendering do to the state, a run does. -/
theorem runWith_keeps {r : σ → σ → Prop} (hrefl : ∀ s, r s s)
    (htrans : ∀ {s t u}, r s t → r t u → r s u)
    (htell : ∀ e, PlanStep.tell e ∈ steps → ∀ s, r s (tell e s)) (hrender : ∀ q, (render q).Keeps r) :
    (runWith tell className render steps).Keeps r := by
  induction steps with
  | nil => exact hrefl
  | cons step steps ih =>
      have ih := ih fun e he => htell e (List.mem_cons_of_mem step he)
      cases step with
      | tell e => exact fun s => htrans (htell e List.mem_cons_self s) (ih _)
      | stop e => exact hrefl
      | method m =>
          exact .bind htrans (.mapError (hrender _) _) fun body =>
            .bind htrans ih fun ms => hrefl

/-- A run that stops at its plan stops at the first fault in it. -/
theorem fault_of_runWith {e : PlanError}
    (h : (runWith tell className render steps s).result = .error (.plan e)) :
    steps.findSome? fault? = some e := by
  induction steps generalizing s with
  | nil => cases h
  | cons step steps ih =>
      cases step with
      | tell e => exact ih h
      | stop e => cases h; rfl
      | method m =>
          cases hbody : (render (m.request className) s).result with
          | error e => rw [runWith_method_of_error hbody] at h; cases h
          | ok body =>
              rw [runWith_method_of_ok hbody] at h
              exact ih (map_eq_error_iff.mp h)

/-- A run through a plan without a fault fails at a call. -/
theorem exists_render_of_runWith {b : BuildError ε} (hfault : steps.findSome? fault? = none)
    (h : (runWith tell className render steps s).result = .error b) : ∃ e, b = .render e := by
  induction steps generalizing s with
  | nil => cases h
  | cons step steps ih =>
      cases step with
      | tell e => exact ih hfault h
      | stop e => cases hfault
      | method m =>
          cases hbody : (render (m.request className) s).result with
          | error e => rw [runWith_method_of_error hbody] at h; cases h; exact ⟨e, rfl⟩
          | ok body =>
              rw [runWith_method_of_ok hbody] at h
              exact ih hfault (map_eq_error_iff.mp h)

end PlanStep

namespace GeneratedClass

variable {σ ε : Type} {tell : Event → σ → σ} {render : StatefulRenderer σ ε} {c : ClassInfo}
  {o : Options} {s : σ}

/-! ## States -/

section Keeps

variable {r : σ → σ → Prop} (hrefl : ∀ s, r s s) (htrans : ∀ {s t u}, r s t → r t u → r s u)
  (htell : ∀ e : Event, e.written = [] → ∀ s, r s (tell e s)) (hrender : ∀ q, (render q).Keeps r)

include hrefl htrans htell hrender

theorem buildWith_keeps (c : ClassInfo) (o : Options) :
    (buildWith tell render (some c) o).Keeps r := by
  have hplan : ∀ e, PlanStep.tell e ∈ PlanStep.ofClass c → ∀ s, r s (tell e s) := fun e he =>
    htell e (PlanStep.written_ofClass c _ he)
  intro s
  cases hname : c.name.isEmpty with
  | true => rw [buildWith_of_unnamed hname]; exact hrefl s
  | false =>
      rw [buildWith_of_named hname]
      exact PlanStep.runWith_keeps hrefl htrans hplan hrender s

/-- **What telling and rendering do to the state**, generating a module does. -/
theorem generateWith_keeps (c : ClassInfo) (o : Options) :
    (generateWith tell render (some c) o).Keeps r :=
  .bind htrans (buildWith_keeps hrefl htrans htell hrender c o) fun _ => .mapError (hrender _) _

end Keeps

/-! ## Errors -/

theorem exists_buildWith_error_iff :
    (∃ b, (buildWith tell render (some c) o s).result = .error b)
      ↔ c.name = [] ∨ (∃ m ∈ c.eligible, ¬ m.IsSound)
        ∨ ∃ e, (buildWith tell render (some c) o s).result = .error (.render e) := by
  constructor
  · rintro ⟨b, h⟩
    cases hname : c.name.isEmpty with
    | true => exact .inl (List.isEmpty_iff.mp hname)
    | false =>
        by_cases hsound : ∀ m ∈ c.eligible, m.IsSound
        · have hfault := PlanStep.findSome?_fault?_ofClass_eq_none_iff.mpr hsound
          rw [buildWith_of_named hname] at h
          obtain ⟨e, rfl⟩ := PlanStep.exists_render_of_runWith hfault (map_eq_error_iff.mp h)
          refine .inr (.inr ⟨e, ?_⟩)
          rw [buildWith_of_named hname]
          exact h
        · exact .inr (.inl (by simpa using hsound))
  · rintro (hname | ⟨m, hm, hfault⟩ | ⟨e, he⟩)
    · rw [buildWith_of_unnamed (List.isEmpty_iff.mpr hname)]
      exact ⟨_, rfl⟩
    · cases h : (buildWith tell render (some c) o s).result with
      | error b => exact ⟨b, rfl⟩
      | ok g =>
          obtain ⟨-, ms, -, hrun⟩ := runWith_of_buildWith h
          have hsound := PlanStep.findSome?_fault?_ofClass_eq_none_iff.mp
            (PlanStep.renders_of_runWith hrun).1
          exact absurd (hsound m hm) hfault
    · exact ⟨_, he⟩

/-- **Building stops at the first method at fault**, if it stops at the plan. -/
theorem first_fault_of_buildWith {e : PlanError}
    (h : (buildWith tell render (some c) o s).result = .error (.plan e)) :
    ∃ before m after, c.eligible = before ++ m :: after ∧ (∀ u ∈ before, u.IsSound)
      ∧ m.FailsWith e := by
  cases hname : c.name.isEmpty with
  | true => rw [buildWith_of_unnamed hname] at h; cases h
  | false =>
      rw [buildWith_of_named hname] at h
      refine Method.findSome?_fault?_eq_some_iff.mp ?_
      rw [← PlanStep.findSome?_fault?_ofClass]
      exact PlanStep.fault_of_runWith (map_eq_error_iff.mp h)

/-- Generating a module fails if building the test class does, or else if the module cannot be
rendered. -/
theorem generateWith_eq_error_iff {b : BuildError ε} :
    (generateWith tell render (some c) o s).result = .error b
      ↔ (buildWith tell render (some c) o s).result = .error b
        ∨ ∃ g e, (buildWith tell render (some c) o s).result = .ok g
            ∧ (render g.request (buildWith tell render (some c) o s).state).result = .error e
            ∧ b = .render e := by
  rw [generateWith, Step.bind_eq_error_iff]
  simp only [Step.mapError_apply, mapError_eq_error_iff, eq_comm (a := b), exists_and_left]

end GeneratedClass

/-! ## Machines -/

section Machines

variable {μ ε : Type} {render : StatefulRenderer (Machine μ) ε} {told : Renderer ε}
  {fs : FileSystem} {s : Machine μ}

/-- A run through a plan is told on a machine if each call is. -/
theorem PlanStep.runWith_onMachine (className : Text)
    (hrender : ∀ q (s : Machine μ), s.files = fs → render q s = (told q).onMachine s)
    (steps : List PlanStep) (hs : s.files = fs) :
    runWith Machine.tell className render steps s = (run className told steps).onMachine s := by
  induction steps generalizing s with
  | nil => rfl
  | cons step steps ih =>
      cases step with
      | tell e => exact ih ((congrArg Machine.files (Machine.tell_eq e s)).trans hs)
      | stop e => rfl
      | method m =>
          have hbody : (render (m.request className)).mapError BuildError.render s
              = ((told (m.request className)).mapError BuildError.render).onMachine s := by
            rw [Step.mapError_apply, hrender _ s hs]
            rfl
          refine Logged.bind_eq_onMachine hs hbody fun body u hu => ?_
          exact Logged.bind_eq_onMachine hu (ih hu) fun ms _ _ => rfl

namespace GeneratedClass

theorem buildWith_onMachine
    (hrender : ∀ q (s : Machine μ), s.files = fs → render q s = (told q).onMachine s)
    (c? : Option ClassInfo) (o : Options) (hs : s.files = fs) :
    buildWith Machine.tell render c? o s = (build told c? o).onMachine s := by
  cases c? with
  | none => rfl
  | some c =>
      unfold buildWith build
      dsimp only
      split
      next => rfl
      next =>
        exact Logged.bind_eq_onMachine hs (PlanStep.runWith_onMachine c.name hrender _ hs)
          fun ms _ _ => rfl

/-- **A renderer whose calls are told** on a machine leads to the module that is generated without
one. -/
theorem generateWith_onMachine
    (hrender : ∀ q (s : Machine μ), s.files = fs → render q s = (told q).onMachine s)
    (c? : Option ClassInfo) (o : Options) (hs : s.files = fs) :
    generateWith Machine.tell render c? o s = (generate told c? o).onMachine s := by
  refine Logged.bind_eq_onMachine hs (buildWith_onMachine hrender c? o hs) fun g u hu => ?_
  rw [Step.mapError_apply, hrender _ u hu]
  rfl

end GeneratedClass

end Machines

end TestSkeleton
