import TestSkeleton.Proofs.Event
import TestSkeleton.Proofs.MethodName
import TestSkeleton.Proofs.Result
import TestSkeleton.TestClass

set_option autoImplicit false

/-! # What a plan holds

A plan interleaves three concerns: which tests there are, how they are named and where it stops.
This module takes them apart. The tests are the `demands` of the eligible methods, which no name and
no error plays a part in (`filterMap_planned?_ofMethods`); the names are those that one namer gives
out for the demands in order (`planOf`); and the plan stops at the first fault of a method
(`findSome?_fault?_ofMethods`). What a run makes of a plan follows in `run_of_renders` and
`run_of_fault`, and a test class is built from such a run (`result_build`).
-/

namespace TestSkeleton

open Annotation

/-! ## Faults of methods -/

/-- The fault of a tag of the method, if it asks for no assertion. -/
def Method.tagFault? (m : Method) (t : Tag) : Option PlanError :=
  match Assertion.ofTag t m.isStatic with
  | .ok _ => none
  | .error e => some (.assertion e)

/-- The first fault of a method. The doc comment is read to its end before a tag is looked at. -/
def Method.fault? (m : Method) : Option PlanError :=
  match extract m.doc with
  | .ok tags => tags.findSome? m.tagFault?
  | .error e => some (.missingExpression e)

/-- The doc comment of the method can be read, and each of its tags asks for an assertion. -/
def Method.IsSound (m : Method) : Prop :=
  ∃ tags, extract m.doc = .ok tags ∧ ∀ t ∈ tags, ∃ a, Assertion.ofTag t m.isStatic = .ok a

/-- The method ends a plan with an error: that of reading its doc comment, or else that of its first
tag that asks for no assertion. -/
inductive Method.FailsWith (m : Method) : PlanError → Prop
  | reading {e : MissingExpression} (h : extract m.doc = .error e) :
      FailsWith m (.missingExpression e)
  | mapping {before after : List Tag} {t : Tag} {e : AssertionError}
      (hread : extract m.doc = .ok (before ++ t :: after))
      (hbefore : ∀ u ∈ before, ∃ a, Assertion.ofTag u m.isStatic = .ok a)
      (h : Assertion.ofTag t m.isStatic = .error e) :
      FailsWith m (.assertion e)

namespace Method

theorem tagFault?_eq_none_iff {m : Method} {t : Tag} :
    m.tagFault? t = none ↔ ∃ a, Assertion.ofTag t m.isStatic = .ok a := by
  unfold tagFault?
  cases Assertion.ofTag t m.isStatic <;> simp

theorem tagFault?_eq_some_iff {m : Method} {t : Tag} {p : PlanError} :
    m.tagFault? t = some p ↔ ∃ e, Assertion.ofTag t m.isStatic = .error e ∧ p = .assertion e := by
  unfold tagFault?
  cases Assertion.ofTag t m.isStatic <;> simp [eq_comm]

theorem fault?_eq_none_iff {m : Method} : m.fault? = none ↔ m.IsSound := by
  unfold fault? IsSound
  cases extract m.doc with
  | error e => simp
  | ok tags => simp [List.findSome?_eq_none_iff, tagFault?_eq_none_iff]

theorem fault?_eq_some_iff {m : Method} {p : PlanError} : m.fault? = some p ↔ m.FailsWith p := by
  unfold fault?
  cases hread : extract m.doc with
  | error e =>
      constructor
      · rintro ⟨rfl⟩
        exact .reading hread
      · intro h
        cases h with
        | reading h => rw [hread] at h; cases h; rfl
        | mapping h => rw [hread] at h; cases h
  | ok tags =>
      simp only [List.findSome?_eq_some_iff, tagFault?_eq_some_iff, tagFault?_eq_none_iff]
      constructor
      · rintro ⟨before, t, after, rfl, ⟨e, he, rfl⟩, hbefore⟩
        exact .mapping hread hbefore he
      · intro h
        cases h with
        | reading h => rw [hread] at h; cases h
        | mapping h hbefore he =>
            rw [hread] at h
            cases h
            exact ⟨_, _, _, rfl, ⟨_, he, rfl⟩, hbefore⟩

instance (m : Method) : Decidable m.IsSound := decidable_of_iff _ fault?_eq_none_iff

end Method

/-! ## Demands -/

/-- The tags of a method, none if its doc comment cannot be read. -/
def Method.tags (m : Method) : List Tag := (extract m.doc).toOption.getD []

/-- A test that is to be generated: for a tag of a method, or in place of its tags. -/
structure Demand where
  method : Method
  tag : Option Tag
deriving DecidableEq, Repr

/-- The assertion that the tag of a demand asks for. -/
def Demand.assertion? (d : Demand) : Option Assertion :=
  d.tag.bind fun t => (Assertion.ofTag t d.method.isStatic).toOption

/-- The test of a demand under a name. -/
def Demand.planned (d : Demand) (name : Text) : PlannedMethod :=
  ⟨name, d.method, d.tag.bind fun t => d.assertion?.map fun a => (t.prefaceText, a)⟩

/-- One demand for each tag of a method, or a single one if there are no tags. -/
def Method.demands (m : Method) : List Demand :=
  match m.tags with
  | [] => [⟨m, none⟩]
  | tags => tags.map fun t => ⟨m, some t⟩

/-- The tests of demands under the names that a namer gives out for them in order. -/
def planOf (n : MethodNamer) (ds : List Demand) : List PlannedMethod :=
  List.zipWith Demand.planned ds (n.names (ds.map fun d => d.method.name)).1

/-- The tests of a class in the order of its methods. -/
def ClassInfo.plan (c : ClassInfo) : List PlannedMethod :=
  planOf .empty (c.eligible.flatMap Method.demands)

theorem planOf_cons (n : MethodNamer) (d : Demand) (ds : List Demand) :
    planOf n (d :: ds)
      = d.planned (n.name d.method.name).1 :: planOf (n.name d.method.name).2 ds := rfl

theorem planOf_append (n : MethodNamer) (ds ds' : List Demand) :
    planOf n (ds ++ ds')
      = planOf n ds ++ planOf (n.names (ds.map fun d => d.method.name)).2 ds' := by
  unfold planOf
  rw [List.map_append, MethodNamer.names_append]
  exact List.zipWith_append (by simp)

theorem Method.tags_eq {m : Method} {tags : List Tag} (h : extract m.doc = .ok tags) :
    m.tags = tags := by
  rw [Method.tags, h]
  rfl

/-! ## Steps

A plan is looked at through two views: the tests in it, and the first error it stops at. -/

namespace PlanStep

/-- The test that a step renders. -/
def planned? : PlanStep → Option PlannedMethod
  | method m => some m
  | _ => none

/-- The error that a step stops with. -/
def fault? : PlanStep → Option PlanError
  | stop e => some e
  | _ => none

theorem findSome?_fault?_ofTags (m : Method) (n : MethodNamer) (tags : List Tag) :
    (ofTags m n tags).1.findSome? fault? = tags.findSome? m.tagFault? := by
  induction tags generalizing n with
  | nil => rfl
  | cons t tags ih =>
      rw [ofTags, List.findSome?_cons, Method.tagFault?]
      cases Assertion.ofTag t m.isStatic with
      | error e => rfl
      | ok a => exact ih _

/-- The tags of a method that all ask for assertions are planned one by one. -/
theorem ofTags_of_sound {m : Method} {tags : List Tag}
    (h : ∀ t ∈ tags, ∃ a, Assertion.ofTag t m.isStatic = .ok a) (n : MethodNamer) :
    (ofTags m n tags).1.filterMap planned? = planOf n (tags.map fun t => ⟨m, some t⟩)
      ∧ (ofTags m n tags).2 = (n.names (tags.map fun _ => m.name)).2 := by
  induction tags generalizing n with
  | nil => exact ⟨rfl, rfl⟩
  | cons t tags ih =>
      obtain ⟨a, ha⟩ := h t List.mem_cons_self
      obtain ⟨hsteps, hnamer⟩ := ih (fun u hu => h u (List.mem_cons_of_mem t hu)) (n.name m.name).2
      have hplanned : (Demand.mk m (some t)).planned (n.name m.name).1
          = ⟨(n.name m.name).1, m, some (t.prefaceText, a)⟩ := by
        simp [Demand.planned, Demand.assertion?, ha, Except.toOption]
      simp only [ofTags, ha]
      constructor
      · rw [List.map_cons, planOf_cons, hplanned, ← hsteps]
        rfl
      · rw [List.map_cons, MethodNamer.names_cons, ← hnamer]

theorem findSome?_fault?_ofMethod (className : Text) (n : MethodNamer) (m : Method) :
    (ofMethod className n m).1.findSome? fault? = m.fault? := by
  rw [ofMethod, Method.fault?]
  cases extract m.doc with
  | error e => rfl
  | ok tags =>
      cases tags with
      | nil => rfl
      | cons t tags => exact findSome?_fault?_ofTags m n (t :: tags)

/-- **The plan of a sound method** holds its demands under the next names. -/
theorem ofMethod_of_sound {m : Method} (h : m.IsSound) (className : Text) (n : MethodNamer) :
    (ofMethod className n m).1.filterMap planned? = planOf n m.demands
      ∧ (ofMethod className n m).2 = (n.names (m.demands.map fun d => d.method.name)).2 := by
  obtain ⟨tags, hread, hmap⟩ := h
  rw [ofMethod, Method.demands, Method.tags_eq hread, hread]
  cases tags with
  | nil => exact ⟨rfl, rfl⟩
  | cons t tags =>
      obtain ⟨hsteps, hnamer⟩ := ofTags_of_sound hmap n
      refine ⟨hsteps, ?_⟩
      rw [List.map_map]
      exact hnamer

/-- A plan stops at the first fault of a method, whatever names are given out. -/
theorem findSome?_fault?_ofMethods (className : Text) (n : MethodNamer) (ms : List Method) :
    (ofMethods className n ms).findSome? fault? = ms.findSome? Method.fault? := by
  induction ms generalizing n with
  | nil => rfl
  | cons m ms ih =>
      rw [ofMethods, List.findSome?_append, findSome?_fault?_ofMethod, ih, List.findSome?_cons]
      cases m.fault? <;> rfl

/-- **The plan of sound methods** holds all of their demands, named in order. -/
theorem filterMap_planned?_ofMethods {ms : List Method} (h : ∀ m ∈ ms, m.IsSound)
    (className : Text) (n : MethodNamer) :
    (ofMethods className n ms).filterMap planned? = planOf n (ms.flatMap Method.demands) := by
  induction ms generalizing n with
  | nil => rfl
  | cons m ms ih =>
      obtain ⟨hsteps, hnamer⟩ := ofMethod_of_sound (h m List.mem_cons_self) className n
      rw [ofMethods, List.filterMap_append, hsteps, hnamer,
        ih (fun u hu => h u (List.mem_cons_of_mem m hu)), List.flatMap_cons, planOf_append]

variable {c : ClassInfo}

/-- **The steps of a class** stop at the first fault of an eligible method. -/
theorem findSome?_fault?_ofClass (c : ClassInfo) :
    (ofClass c).findSome? fault? = c.eligible.findSome? Method.fault? :=
  findSome?_fault?_ofMethods c.name .empty c.eligible

theorem findSome?_fault?_ofClass_eq_none_iff :
    (ofClass c).findSome? fault? = none ↔ ∀ m ∈ c.eligible, m.IsSound := by
  simp only [findSome?_fault?_ofClass, List.findSome?_eq_none_iff, Method.fault?_eq_none_iff]

/-- Without a fault, the steps of a class render its plan. -/
theorem filterMap_planned?_ofClass (h : (ofClass c).findSome? fault? = none) :
    (ofClass c).filterMap planned? = c.plan :=
  filterMap_planned?_ofMethods (findSome?_fault?_ofClass_eq_none_iff.mp h) c.name .empty

end PlanStep

/-! ## Runs -/

/-- The renderer answers every request. -/
def Renderer.NeverFails {ε : Type} (render : Renderer ε) : Prop :=
  ∀ r, ∃ t, (render r).result = .ok t

/-- The renderer that answers with the name of the template. -/
def Renderer.templateName : Renderer Empty := fun r => pure r.template.name

theorem Renderer.templateName_neverFails : Renderer.templateName.NeverFails := fun _ => ⟨_, rfl⟩

/-- The answer to a request, empty if there is none. -/
def Renderer.answer {ε : Type} (render : Renderer ε) (r : RenderRequest) : Text :=
  (render r).result.toOption.getD []

/-- A test with the body that a renderer gives it. -/
def PlannedMethod.rendered {ε : Type} (className : Text) (render : Renderer ε)
    (m : PlannedMethod) : GeneratedMethod :=
  m.withBody (render.answer (m.request className))

theorem Renderer.result_eq_answer {ε : Type} {render : Renderer ε} {r : RenderRequest}
    (h : ∃ t, (render r).result = .ok t) : (render r).result = .ok (render.answer r) := by
  obtain ⟨t, ht⟩ := h
  rw [Renderer.answer, ht]
  rfl

namespace PlanStep

section Run

variable {ε : Type} (className : Text) (render : Renderer ε)

/-- **The result of a run** whose requests are all answered: the first error of the plan, or else
every test of the plan with its body. -/
theorem run_of_renders (steps : List PlanStep)
    (h : ∀ m ∈ steps.filterMap planned?, ∃ t, (render (m.request className)).result = .ok t) :
    (run className render steps).result
      = match steps.findSome? fault? with
        | some e => .error (.plan e)
        | none =>
          .ok ((steps.filterMap planned?).map (PlannedMethod.rendered className render)) := by
  induction steps with
  | nil => rfl
  | cons s steps ih =>
      cases s with
      | tell e => exact ih h
      | stop e => rfl
      | method m =>
          have hm := Renderer.result_eq_answer (h m List.mem_cons_self)
          have hsteps := ih fun u hu => h u (List.mem_cons_of_mem m hu)
          rw [run, Logged.result_bind_of_ok (by rw [Logged.result_mapError, hm]; rfl)]
          show _ = match steps.findSome? fault? with
            | some e => Except.error (BuildError.plan e)
            | none => .ok (m.rendered className render
                :: (steps.filterMap planned?).map (PlannedMethod.rendered className render))
          cases hfault : steps.findSome? fault? with
          | some e =>
              rw [hfault] at hsteps
              exact Logged.result_bind_of_error hsteps _
          | none =>
              rw [hfault] at hsteps
              exact Logged.result_bind_of_ok hsteps _

/-- A run whose plan stops yields nothing, whatever is rendered before. -/
theorem run_of_fault {steps : List PlanStep} {e : PlanError}
    (h : steps.findSome? fault? = some e) (ms : List GeneratedMethod) :
    (run className render steps).result ≠ .ok ms := by
  induction steps generalizing ms with
  | nil => cases h
  | cons s steps ih =>
      cases s with
      | tell e => exact ih h ms
      | stop e => simp [run]
      | method m =>
          rw [run, Ne, Logged.result_bind_eq_ok_iff]
          rintro ⟨body, -, hrest⟩
          obtain ⟨ms', hms', -⟩ := Logged.result_bind_eq_ok_iff.mp hrest
          exact ih h ms' hms'

end Run

end PlanStep

namespace GeneratedClass

variable {ε : Type} {render : Renderer ε} {c : ClassInfo} {o : Options} {g : GeneratedClass}

/-- **Building the test class of a named class** is carrying its plan out. -/
theorem result_build (hname : c.name ≠ []) (o : Options) :
    (build render (some c) o).result
      = (PlanStep.run c.name render (PlanStep.ofClass c)).result.map (ofMethods c o) := by
  rw [build, if_neg (by simpa using hname), Logged.result_bind_pure]

theorem result_build_of_unnamed (hname : c.name = []) (o : Options) :
    (build render (some c) o).result = .error .unavailable := by
  rw [build, if_pos (by simpa using hname)]
  rfl

/-- A test class is that of a named class, with the methods of a run. -/
theorem run_of_build (h : (build render (some c) o).result = .ok g) :
    c.name ≠ [] ∧ ∃ ms, g = ofMethods c o ms
      ∧ (PlanStep.run c.name render (PlanStep.ofClass c)).result = .ok ms := by
  have hname : c.name ≠ [] := by
    intro hname
    rw [result_build_of_unnamed hname] at h
    cases h
  rw [result_build hname] at h
  obtain ⟨ms, hrun, hg⟩ := map_eq_ok_iff.mp h
  exact ⟨hname, ms, hg.symm, hrun⟩

end GeneratedClass

end TestSkeleton
