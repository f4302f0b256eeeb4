import TestSkeleton.Proofs.MethodName.Apart
import TestSkeleton.Proofs.TestClass.Override

set_option autoImplicit false

/-! # Names of tests are stable

If the capitalized names of the eligible methods are apart, the tests for one of them are numbered
among themselves, in the order in which they are declared. In the plan of such a class the tests for
a name are those of the methods with this name alone, under the candidates one after the other
(`filter_plan`). So methods with other names have no part in how the tests for a name are called
(`names_stable`).
-/

namespace TestSkeleton

/-! ## Tests for a name -/

/-- The name that the tests of a method are numbered under. -/
def Method.baseName (m : Method) : Text := Text.capitalizeFirst m.name

/-- Different capitalized names of eligible methods are apart. -/
def ClassInfo.HasNamesApart (c : ClassInfo) : Prop :=
  ∀ m ∈ c.eligible, ∀ m' ∈ c.eligible, m.baseName ≠ m'.baseName →
    AreApart m.baseName m'.baseName

instance (c : ClassInfo) : Decidable c.HasNamesApart :=
  inferInstanceAs (Decidable (∀ m ∈ c.eligible, ∀ m' ∈ c.eligible, m.baseName ≠ m'.baseName →
    AreApart m.baseName m'.baseName))

/-- What a test is apart from its body. -/
def GeneratedMethod.heading (m : GeneratedMethod) : Text × Method × Option Assertion :=
  (m.name, m.source, m.assertion)

/-- The methods of a test class in the order in which they are declared: those of each eligible
method one after the other, which the test class has placeholders last. -/
structure GeneratedClass.IsDeclared (g : GeneratedClass) (c : ClassInfo)
    (declared : List GeneratedMethod) : Prop where
  methods_eq : g.methods = declared.filter (!·.isIncomplete) ++ declared.filter (·.isIncomplete)
  tests_eq : declared.map (fun x => (x.source, x.assertion))
    = c.eligible.flatMap fun m => m.demands.map fun d => (m, d.assertion?)

/-! ## The plan for a name -/

variable {c : ClassInfo} {base : Text}

theorem Method.method_of_mem_demands {m : Method} {d : Demand} (h : d ∈ m.demands) :
    d.method = m := by
  have hmem : d.method ∈ m.demands.map (·.method) := List.mem_map_of_mem h
  rw [map_demands_method] at hmem
  exact List.eq_of_mem_replicate hmem

theorem filter_demands (base : Text) (ms : List Method) :
    (ms.flatMap Method.demands).filter (fun d => d.method.baseName = base)
      = (ms.filter fun m => m.baseName = base).flatMap Method.demands := by
  induction ms with
  | nil => rfl
  | cons m ms ih =>
      rw [List.flatMap_cons, List.filter_append, ih, List.filter_cons]
      by_cases hm : m.baseName = base
      · have hall : m.demands.filter (fun d => d.method.baseName = base) = m.demands :=
          List.filter_eq_self.mpr fun d hd => by
            simpa [Method.method_of_mem_demands hd] using hm
        rw [hall, if_pos (by simpa using hm), List.flatMap_cons]
      · have hnone : m.demands.filter (fun d => d.method.baseName = base) = [] :=
          List.filter_eq_nil_iff.mpr fun d hd => by
            simpa [Method.method_of_mem_demands hd] using hm
        rw [hnone, if_neg (by simpa using hm), List.nil_append]

/-- **The tests for a name among names that are apart** get its candidates one after the other,
whatever names are given out in between. -/
theorem filter_planOf {n : MethodNamer} {ds : List Demand} (h : n.CountsExactly base)
    (hds : ∀ d ∈ ds, d.method.baseName = base ∨ AreApart base d.method.baseName) :
    (planOf n ds).filter (fun p => p.source.baseName = base)
      = (ds.filter fun d => d.method.baseName = base).mapIdx fun i d =>
          d.planned (nameCandidate base (n.count base + i + 1)) := by
  -- on the tests; whoever gets the next name, the count of `base` stays exact
  induction ds generalizing n with
  | nil => rfl
  | cons d ds ih =>
      obtain ⟨hd, hds⟩ := List.forall_mem_cons.mp hds
      have hrest := ih (h.name hd) hds
      rw [planOf_cons]
      by_cases hbase : d.method.baseName = base
      · subst hbase
        have hname : (n.name d.method.name).1
            = nameCandidate d.method.baseName (n.count d.method.baseName + 1) := h.name_fst_eq
        have hcount : (n.name d.method.name).2.count d.method.baseName
            = n.count d.method.baseName + 1 := h.count_name_eq
        rw [List.filter_cons_of_pos (by simp [Demand.planned]), hrest, hcount, hname,
          List.filter_cons_of_pos (by simp), List.mapIdx_cons]
        simp only [Nat.add_zero, Nat.add_right_comm _ 1, ← Nat.add_assoc]
      · have hcount : (n.name d.method.name).2.count base = n.count base :=
          (n.count_name d.method.name base).trans (if_neg fun heq => hbase heq.symm)
        rw [List.filter_cons_of_neg (by simp [Demand.planned, hbase]), hrest, hcount,
          List.filter_cons_of_neg (by simp [hbase])]

theorem source_of_mem_plan {p : PlannedMethod} (h : p ∈ c.plan) : p.source ∈ c.eligible := by
  have hmem : p.source ∈ c.plan.map (·.source) := List.mem_map_of_mem h
  rw [c.map_plan_source] at hmem
  obtain ⟨m, hm, hsource⟩ := List.mem_flatMap.mp hmem
  rw [List.eq_of_mem_replicate hsource]
  exact hm

/-- **The plan for a name** depends on the methods with this name alone. -/
theorem filter_plan (hc : c.HasNamesApart) (base : Text) :
    c.plan.filter (fun p => p.source.baseName = base)
      = ((c.eligible.filter fun m => m.baseName = base).flatMap Method.demands).mapIdx fun i d =>
          d.planned (nameCandidate base (i + 1)) := by
  by_cases hbase : ∃ m ∈ c.eligible, m.baseName = base
  · obtain ⟨m, hm, rfl⟩ := hbase
    have hapart : ∀ d ∈ c.eligible.flatMap Method.demands,
        d.method.baseName = m.baseName ∨ AreApart m.baseName d.method.baseName := by
      intro d hd
      obtain ⟨m', hm', hdm'⟩ := List.mem_flatMap.mp hd
      rw [Method.method_of_mem_demands hdm']
      by_cases heq : m'.baseName = m.baseName
      · exact .inl heq
      · exact .inr (hc m hm m' hm' fun h => heq h.symm)
    have hplan := filter_planOf (MethodNamer.countsExactly_empty m.baseName) hapart
    have hcount : MethodNamer.empty.count m.baseName = 0 := rfl
    rw [ClassInfo.plan, hplan, filter_demands, hcount]
    simp only [Nat.zero_add]
  · -- there is no test for the name
    have hmethods : (c.eligible.filter fun m => m.baseName = base) = [] :=
      List.filter_eq_nil_iff.mpr fun m hm => by
        simpa using fun heq => hbase ⟨m, hm, heq⟩
    have hplan : c.plan.filter (fun p => p.source.baseName = base) = [] :=
      List.filter_eq_nil_iff.mpr fun p hp => by
        simpa using fun heq => hbase ⟨p.source, source_of_mem_plan hp, heq⟩
    rw [hplan, hmethods]
    rfl

/-! ## The order of declaration -/

/-- A list is known from its elements with a property, those without it, and the places of both. -/
theorem eq_of_filter_eq {α : Type} {p : α → Bool} {xs ys : List α} (hplaces : xs.map p = ys.map p)
    (hwith : xs.filter p = ys.filter p) (hwithout : xs.filter (!p ·) = ys.filter (!p ·)) :
    xs = ys := by
  induction xs generalizing ys with
  | nil => exact (List.map_eq_nil_iff.mp hplaces.symm).symm
  | cons x xs ih =>
      cases ys with
      | nil => cases hplaces
      | cons y ys =>
          obtain ⟨hxy, htail⟩ := List.cons.inj hplaces
          rw [List.filter_cons, List.filter_cons, ← hxy] at hwith hwithout
          cases hx : p x with
          | true =>
              simp only [hx, if_true, Bool.not_true, Bool.false_eq_true, if_false] at hwith hwithout
              obtain ⟨rfl, hwith'⟩ := List.cons.inj hwith
              rw [ih htail hwith' hwithout]
          | false =>
              simp only [hx, if_true, Bool.not_false, Bool.false_eq_true, if_false]
                at hwith hwithout
              obtain ⟨rfl, hwithout'⟩ := List.cons.inj hwithout
              rw [ih htail hwith hwithout']

namespace GeneratedClass

variable {ε : Type} {render : Renderer ε} {o : Options} {g : GeneratedClass}

/-- **There is one order of declaration** for the methods of a test class. -/
theorem IsDeclared.unique {xs ys : List GeneratedMethod} (h : g.IsDeclared c xs)
    (h' : g.IsDeclared c ys) : xs = ys := by
  have hplaces : xs.map (·.isIncomplete) = ys.map (·.isIncomplete) := by
    have htests := congrArg (List.map fun t => t.2.isNone) (h.tests_eq.trans h'.tests_eq.symm)
    rw [List.map_map, List.map_map] at htests
    exact htests
  have hlength : (xs.filter (!·.isIncomplete)).length = (ys.filter (!·.isIncomplete)).length := by
    have hcount := congrArg (fun places => (places.filter (!·)).length) hplaces
    simp only [List.filter_map, List.length_map] at hcount
    exact hcount
  obtain ⟨hwithout, hwith⟩ := List.append_inj (h.methods_eq.symm.trans h'.methods_eq) hlength
  exact eq_of_filter_eq hplaces hwith hwithout

theorem isDeclared_ofMethods (c : ClassInfo) (render : Renderer ε) (o : Options) :
    (ofMethods c o (c.plan.map (PlannedMethod.rendered c.name render))).IsDeclared c
      (c.plan.map (PlannedMethod.rendered c.name render)) := by
  refine ⟨rfl, ?_⟩
  rw [List.map_map]
  refine c.map_plan_source_assertion?.trans
    (List.flatMap_congr fun m _ => List.map_congr_left fun d hd => ?_)
  rw [Method.method_of_mem_demands hd]

/-! ## Names in a test class -/

theorem filter_rendered (base className : Text) (render : Renderer ε) (ps : List PlannedMethod) :
    (ps.map (PlannedMethod.rendered className render)).filter (fun x => x.source.baseName = base)
      = (ps.filter fun p => p.source.baseName = base).map
          (PlannedMethod.rendered className render) :=
  List.filter_map

/-- The tests for a name in a test class come from the plan for the name, placeholders last. -/
theorem map_heading_ofMethods (c : ClassInfo) (render : Renderer ε) (o : Options) (base : Text) :
    ((ofMethods c o (c.plan.map (PlannedMethod.rendered c.name render))).methods.filter
        fun x => x.source.baseName = base).map GeneratedMethod.heading
      = (((c.plan.filter fun p => p.source.baseName = base).filter (!·.assertion?.isNone))
        ++ (c.plan.filter fun p => p.source.baseName = base).filter (·.assertion?.isNone)).map
          fun p => (p.name, p.source, p.assertion?) := by
  show (List.filter _ (_ ++ _)).map _ = _
  rw [List.filter_append, List.filter_filter, List.filter_filter]
  simp only [Bool.and_comm (decide _)]
  rw [← List.filter_filter, ← List.filter_filter, filter_rendered, List.filter_map,
    List.filter_map, ← List.map_append, List.map_map]
  rfl

/-- **Names of tests are stable.** Let the capitalized names of the eligible methods of a class be
apart. In the order of declaration, placeholders included, the first test for a name bears it as it
is, and each later one bears it with its number. So the tests for a name keep their names if methods
with other names are added, removed or put elsewhere, as long as the names stay apart. -/
theorem names_stable (hc : c.HasNamesApart) (hg : (build render (some c) o).result = .ok g) :
    (∃ declared, g.IsDeclared c declared) ∧
    (∀ declared, g.IsDeclared c declared →
      ∀ base i x, (declared.filter fun x => x.source.baseName = base)[i]? = some x →
        x.name = if i = 0 then base else base ++ Text.ofNat (i + 1)) ∧
    ∀ (ε' : Type) (render' : Renderer ε') (o' : Options) (c' : ClassInfo) (g' : GeneratedClass),
      c'.HasNamesApart → (build render' (some c') o').result = .ok g' →
      ∀ base, (c.eligible.filter fun m => m.baseName = base)
          = (c'.eligible.filter fun m => m.baseName = base) →
        (g.methods.filter fun x => x.source.baseName = base).map GeneratedMethod.heading
          = (g'.methods.filter fun x => x.source.baseName = base).map
              GeneratedMethod.heading := by
  obtain rfl := rendered_of_build hg
  have hdeclared := isDeclared_ofMethods c render o
  refine ⟨⟨_, hdeclared⟩, ?_, ?_⟩
  · intro declared hother base i x hx
    obtain rfl := hother.unique hdeclared
    rw [filter_rendered, filter_plan hc, List.getElem?_map, List.getElem?_mapIdx] at hx
    obtain ⟨p, hp, rfl⟩ := Option.map_eq_some_iff.mp hx
    obtain ⟨d, -, rfl⟩ := Option.map_eq_some_iff.mp hp
    show nameCandidate base (i + 1) = _
    by_cases hi : i = 0
    · rw [if_pos hi, hi, nameCandidate_one]
    · rw [if_neg hi, nameCandidate_of_lt base (by omega)]
  · intro ε' render' o' c' g' hc' hg' base hsame
    obtain rfl := rendered_of_build hg'
    have hplan : c.plan.filter (fun p => p.source.baseName = base)
        = c'.plan.filter (fun p => p.source.baseName = base) := by
      rw [filter_plan hc, filter_plan hc', hsame]
    rw [map_heading_ofMethods, map_heading_ofMethods, hplan]

/-! ### A class that grows -/

/-- A class with two methods that are capitalized alike, one of them declared twice. -/
def counter : ClassInfo where
  name := "Counter"
  methods := [
    { name := "add", doc := "@assert (1, 2) == 3" },
    { name := "reset" },
    { name := "Add", isStatic := true },
    { name := "add0", doc := "@assert (0) == 0\n@assert (1) == 1" },
    { name := "add", doc := "@assert (5) == 5" }]

/-- The class with other methods among those for `Add`. -/
def grownCounter : ClassInfo where
  name := "Counter"
  methods := [
    { name := "add0" },
    { name := "add", doc := "@assert (1, 2) == 3" },
    { name := "clear", doc := "@assert () == 0" },
    { name := "add2", isOwn := false },
    { name := "Add", isStatic := true },
    { name := "add", doc := "@assert (5) == 5" }]

theorem counter_names_stable :
    counter.HasNamesApart ∧ grownCounter.HasNamesApart ∧
    ∃ g g', (build Renderer.templateName (some counter) morning).result = .ok g ∧
      (build Renderer.templateName (some grownCounter) morning).result = .ok g' ∧
      (g.methods.filter fun x => x.source.baseName = "Add".toList).map GeneratedMethod.heading
        = (g'.methods.filter fun x => x.source.baseName = "Add".toList).map
            GeneratedMethod.heading ∧
      ∃ declared x, g.IsDeclared counter declared ∧
        (declared.filter fun x => x.source.baseName = "Add".toList)[2]? = some x ∧
        x.name = "Add3".toList := by
  have hcounter : counter.HasNamesApart := by decide +kernel
  have hgrown : grownCounter.HasNamesApart := by decide +kernel
  obtain ⟨g, hg⟩ : ∃ g, (build Renderer.templateName (some counter) morning).result = .ok g :=
    Logged.exists_result_of_isOk (by decide +kernel)
  obtain ⟨g', hg'⟩ : ∃ g, (build Renderer.templateName (some grownCounter) morning).result
      = .ok g := Logged.exists_result_of_isOk (by decide +kernel)
  obtain ⟨⟨declared, hdeclared⟩, hnames, hstable⟩ := names_stable hcounter hg
  have hsame := hstable Empty Renderer.templateName morning grownCounter g' hgrown hg' "Add".toList
    (by decide +kernel)
  have hsources : declared.map (·.source)
      = (counter.eligible.flatMap fun m => m.demands.map fun d => (m, d.assertion?)).map
          Prod.fst := by
    rw [← hdeclared.tests_eq, List.map_map]
    rfl
  have hthree : ((declared.filter fun x => x.source.baseName = "Add".toList).map
      (·.source)).length = 3 := by
    have hfilter := congrArg (List.filter fun m : Method => m.baseName = "Add".toList) hsources
    rw [List.filter_map] at hfilter
    exact (congrArg List.length hfilter).trans (by decide +kernel)
  rw [List.length_map] at hthree
  obtain ⟨x, hx⟩ : ∃ x, (declared.filter fun x => x.source.baseName = "Add".toList)[2]? = some x :=
    ⟨_, List.getElem?_eq_getElem (by omega)⟩
  exact ⟨hcounter, hgrown, g, g', hg, hg', hsame, declared, x, hdeclared, hx,
    hnames declared hdeclared _ 2 x hx⟩

end GeneratedClass

end TestSkeleton
