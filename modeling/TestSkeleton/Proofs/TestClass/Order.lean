import TestSkeleton.Proofs.TestClass.Plan

set_option autoImplicit false

/-! # The methods of a test class

A class whose eligible methods are all sound gets one test for each of their tags and one
placeholder for each of them without tags. The tests come first and the placeholders behind them,
but the names are given out in the order of the class, where a placeholder has its turn at the place
of its method. The main statement is `build_tests_then_placeholders`.
-/

namespace TestSkeleton

open Annotation

/-! ## The plan through its projections -/

/-- The assertion of a planned test; nothing for a placeholder. -/
def PlannedMethod.assertion? (m : PlannedMethod) : Option Assertion := m.test.map Prod.snd

theorem Demand.planned_assertion? (d : Demand) (name : Text) :
    (d.planned name).assertion? = d.assertion? := by
  unfold Demand.planned PlannedMethod.assertion? Demand.assertion?
  cases d.tag with
  | none => rfl
  | some t =>
      simp only [Option.bind_some]
      cases Assertion.ofTag t d.method.isStatic <;> rfl

/-- Which tests there are does not depend on the namer. -/
theorem map_planOf_source_assertion? (n : MethodNamer) (ds : List Demand) :
    (planOf n ds).map (fun p => (p.source, p.assertion?))
      = ds.map fun d => (d.method, d.assertion?) := by
  induction ds generalizing n with
  | nil => rfl
  | cons d ds ih =>
      rw [planOf_cons, List.map_cons, List.map_cons, ih, Demand.planned_assertion?]
      rfl

/-- The tests of a plan bear the names that are given out for their methods in order. -/
theorem map_planOf_name (n : MethodNamer) (ds : List Demand) :
    (planOf n ds).map (·.name) = (n.names ((planOf n ds).map (·.source.name))).1 := by
  induction ds generalizing n with
  | nil => rfl
  | cons d ds ih =>
      rw [planOf_cons, List.map_cons, ih, List.map_cons, MethodNamer.names_cons]
      rfl

theorem map_planOf_source (n : MethodNamer) (ds : List Demand) :
    (planOf n ds).map (·.source) = ds.map (·.method) := by
  have h := congrArg (List.map Prod.fst) (map_planOf_source_assertion? n ds)
  simpa [Function.comp_def] using h

/-! ## The demands of a method -/

namespace Method

/-- A method has one demand for each tag, and never none. -/
theorem map_demands_method (m : Method) :
    m.demands.map (·.method) = List.replicate (max 1 m.tags.length) m := by
  unfold demands
  cases m.tags with
  | nil => rfl
  | cons t tags =>
      rw [List.map_map]
      show List.map (fun _ => m) (t :: tags) = _
      rw [List.map_const', Nat.max_eq_right (by simp)]

theorem isSome_assertion?_of_sound {m : Method} (h : m.IsSound) {t : Tag} (ht : t ∈ m.tags) :
    (Assertion.ofTag t m.isStatic).toOption.isSome := by
  obtain ⟨tags, hread, hmap⟩ := h
  rw [tags_eq hread] at ht
  obtain ⟨a, ha⟩ := hmap t ht
  rw [ha]
  rfl

theorem map_demands (m : Method) :
    (m.demands.map fun d => (d.method, d.assertion?))
      = if m.tags.isEmpty then [(m, none)]
        else m.tags.map fun t => (m, (Assertion.ofTag t m.isStatic).toOption) := by
  unfold demands
  cases m.tags with
  | nil => rfl
  | cons t tags =>
      rw [List.map_map]
      rfl

/-- The demands of a sound method with an assertion are those for its tags. -/
theorem filter_demands_isSome {m : Method} (h : m.IsSound) :
    (m.demands.map fun d => (d.method, d.assertion?)).filter (·.2.isSome)
      = m.tags.map fun t => (m, (Assertion.ofTag t m.isStatic).toOption) := by
  rw [map_demands]
  split
  next hnil =>
    rw [List.isEmpty_iff.mp hnil]
    rfl
  next =>
    refine List.filter_eq_self.mpr (List.forall_mem_map.mpr fun _ => ?_)
    exact isSome_assertion?_of_sound h

/-- A sound method has a demand without an assertion just if it has no tags. -/
theorem filter_demands_isNone {m : Method} (h : m.IsSound) :
    (m.demands.map fun d => (d.method, d.assertion?)).filter (·.2.isNone)
      = if m.tags.isEmpty then [(m, none)] else [] := by
  rw [map_demands]
  split
  next => rfl
  next =>
    refine List.filter_eq_nil_iff.mpr (List.forall_mem_map.mpr fun t ht => ?_)
    rw [Option.isNone_eq_false_iff.mpr (isSome_assertion?_of_sound h ht)]
    exact Bool.false_ne_true

end Method

/-! ## The plan of a class -/

theorem flatMap_if_singleton {α β : Type} (p : α → Bool) (f : α → β) (xs : List α) :
    (xs.flatMap fun x => if p x then [f x] else []) = (xs.filter p).map f := by
  induction xs with
  | nil => rfl
  | cons x xs ih =>
      rw [List.flatMap_cons, ih, List.filter_cons]
      cases p x <;> rfl

namespace ClassInfo

variable {c : ClassInfo}

theorem map_plan_source_assertion? (c : ClassInfo) :
    c.plan.map (fun p => (p.source, p.assertion?))
      = c.eligible.flatMap fun m => m.demands.map fun d => (d.method, d.assertion?) :=
  (map_planOf_source_assertion? .empty _).trans List.map_flatMap

/-- Each eligible method is planned for as often as it has tags, and at least once. -/
theorem map_plan_source (c : ClassInfo) :
    c.plan.map (·.source) = c.eligible.flatMap fun m => List.replicate (max 1 m.tags.length) m := by
  rw [plan, map_planOf_source, List.map_flatMap, funext Method.map_demands_method]

theorem map_plan_name (c : ClassInfo) :
    c.plan.map (·.name) = (MethodNamer.empty.names (c.plan.map (·.source.name))).1 :=
  map_planOf_name _ _

/-- The plan of sound methods has one test with an assertion for each of their tags. -/
theorem map_filter_plan_isSome (hsound : ∀ m ∈ c.eligible, m.IsSound) :
    (c.plan.filter (·.assertion?.isSome)).map (fun p => (p.source, p.assertion?))
      = c.eligible.flatMap fun m =>
          m.tags.map fun t => (m, (Assertion.ofTag t m.isStatic).toOption) := by
  have hfilter := congrArg (List.filter (·.2.isSome)) c.map_plan_source_assertion?
  rw [List.filter_map, List.filter_flatMap] at hfilter
  exact hfilter.trans (List.flatMap_congr fun m hm => Method.filter_demands_isSome (hsound m hm))

/-- The plan of sound methods has one test without an assertion for each of them without tags. -/
theorem map_filter_plan_isNone (hsound : ∀ m ∈ c.eligible, m.IsSound) :
    (c.plan.filter (·.assertion?.isNone)).map (fun p => (p.source, p.assertion?))
      = (c.eligible.filter (·.tags.isEmpty)).map fun m => (m, none) := by
  have hfilter := congrArg (List.filter (·.2.isNone)) c.map_plan_source_assertion?
  rw [List.filter_map, List.filter_flatMap] at hfilter
  refine hfilter.trans ?_
  rw [← flatMap_if_singleton]
  exact List.flatMap_congr fun m hm => Method.filter_demands_isNone (hsound m hm)

end ClassInfo

/-! ## The generated class -/

namespace GeneratedClass

variable {ε : Type} {render : Renderer ε} {c : ClassInfo}

/-- **A class of sound methods gets all of its planned tests**, if they can be rendered. -/
theorem build_of_sound (hname : c.name ≠ []) (hsound : ∀ m ∈ c.eligible, m.IsSound)
    (hr : ∀ p ∈ c.plan, ∃ t, (render (p.request c.name)).result = .ok t) (o : Options) :
    (build render (some c) o).result
      = .ok (ofMethods c o (c.plan.map (PlannedMethod.rendered c.name render))) := by
  have hfault : (PlanStep.ofClass c).findSome? PlanStep.fault? = none :=
    PlanStep.findSome?_fault?_ofClass_eq_none_iff.mpr hsound
  have hplan : (PlanStep.ofClass c).filterMap PlanStep.planned? = c.plan :=
    PlanStep.filterMap_planned?_ofClass hfault
  rw [result_build hname, PlanStep.run_of_renders c.name render _ (by rw [hplan]; exact hr), hfault,
    hplan]
  rfl

/-- Only a named class of sound methods gets a test class, whatever the renderer. -/
theorem sound_of_build {o : Options} {g : GeneratedClass}
    (h : (build render (some c) o).result = .ok g) :
    c.name ≠ [] ∧ ∀ m ∈ c.eligible, m.IsSound := by
  obtain ⟨hname, ms, -, hrun⟩ := run_of_build h
  refine ⟨hname, PlanStep.findSome?_fault?_ofClass_eq_none_iff.mp ?_⟩
  cases hfault : (PlanStep.ofClass c).findSome? PlanStep.fault? with
  | none => rfl
  | some e => exact absurd hrun (PlanStep.run_of_fault c.name render hfault ms)

/-- Putting placeholders last leaves no method out. -/
theorem methods_ofMethods_perm (c : ClassInfo) (o : Options) (ms : List GeneratedMethod) :
    (ofMethods c o ms).methods.Perm ms := by
  have hperm := List.filter_append_perm (fun x : GeneratedMethod => !x.isIncomplete) ms
  simp only [Bool.not_not] at hperm
  exact hperm

/-- **The methods of a test class.** If every eligible method is sound, the test class holds, in the
order of the class, one test for each tag and behind them one placeholder for each method without
tags. In the order in which they are declared, tests and placeholders bear the names that one namer
gives out for them, and no two names are equal. -/
theorem build_tests_then_placeholders (hr : render.NeverFails) (hname : c.name ≠ [])
    (hsound : ∀ m ∈ c.eligible, m.IsSound) (o : Options) :
    ∃ (g : GeneratedClass) (tests placeholders declared : List GeneratedMethod),
      (build render (some c) o).result = .ok g ∧
      g.methods = tests ++ placeholders ∧
      tests.map (fun x => (x.source, x.assertion))
        = c.eligible.flatMap (fun m =>
            m.tags.map fun t => (m, (Assertion.ofTag t m.isStatic).toOption)) ∧
      placeholders.map (fun x => (x.source, x.assertion))
        = (c.eligible.filter fun m => m.tags.isEmpty).map (fun m => (m, none)) ∧
      tests = declared.filter (fun x => !x.isIncomplete) ∧
      placeholders = declared.filter (·.isIncomplete) ∧
      declared.map (·.source)
        = c.eligible.flatMap (fun m => List.replicate (max 1 m.tags.length) m) ∧
      declared.map (·.name)
        = (MethodNamer.empty.names (declared.map fun x => x.source.name)).1 ∧
      (g.methods.map (·.name)).Nodup := by
  let declared := c.plan.map (PlannedMethod.rendered c.name render)
  have hnames : declared.map (·.name)
      = (MethodNamer.empty.names (declared.map fun x => x.source.name)).1 := by
    rw [List.map_map, List.map_map]
    exact c.map_plan_name
  have htests : (fun x : GeneratedMethod => !x.isIncomplete) ∘ PlannedMethod.rendered c.name render
      = (·.assertion?.isSome) := funext fun p => Option.not_isNone _
  refine ⟨_, declared.filter (fun x => !x.isIncomplete), declared.filter (·.isIncomplete), declared,
    build_of_sound hname hsound (fun p _ => hr _) o, rfl, ?_, ?_, rfl, rfl, ?_, hnames, ?_⟩
  · rw [List.filter_map, htests, List.map_map]
    exact ClassInfo.map_filter_plan_isSome hsound
  · rw [List.filter_map, List.map_map]
    exact ClassInfo.map_filter_plan_isNone hsound
  · rw [List.map_map]
    exact c.map_plan_source
  · -- the order of the methods does not matter for their names to differ
    rw [((methods_ofMethods_perm c o declared).map _).nodup_iff, hnames]
    exact MethodNamer.names_nodup _ _

/-- A class with tagged, untagged and inherited methods. -/
def calculator : ClassInfo where
  name := "Calculator"
  methods := [
    { name := "add", doc := "Adds.\n@assert (1, 2) == 3\n@assert (0) throws TypeError" },
    { name := "clear" },
    { name := "reset", isOwn := false, doc := "@assert" },
    { name := "Add", isStatic := true, doc := "@assert-slow\nOf a list.\n([]) empty FALSE" }]

theorem calculator_tests_then_placeholders :
    Renderer.templateName.NeverFails ∧ calculator.name ≠ [] ∧
    (∀ m ∈ calculator.eligible, m.IsSound) ∧
    ∃ g, (build Renderer.templateName (some calculator)
        ⟨none, { date := ⟨2024, 5, 17⟩, hour := 9, minute := 30, second := 15 }⟩).result = .ok g
      ∧ g.methods.length = 4 ∧ (g.methods.map (·.name)).Nodup := by
  have hsound : ∀ m ∈ calculator.eligible, m.IsSound := by decide
  refine ⟨Renderer.templateName_neverFails, List.cons_ne_nil _ _, hsound, ?_⟩
  obtain ⟨g, tests, placeholders, _, hg, hmethods, htests, hplaceholders, -, -, -, -, hnodup⟩ :=
    build_tests_then_placeholders Renderer.templateName_neverFails
      (c := calculator) (List.cons_ne_nil _ _) hsound
      ⟨none, { date := ⟨2024, 5, 17⟩, hour := 9, minute := 30, second := 15 }⟩
  refine ⟨g, hg, ?_, hnodup⟩
  have hthree := congrArg List.length htests
  have hone := congrArg List.length hplaceholders
  rw [List.length_map] at hthree hone
  rw [hmethods, List.length_append, hthree, hone]
  rfl

end GeneratedClass

end TestSkeleton
