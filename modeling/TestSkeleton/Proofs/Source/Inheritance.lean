import TestSkeleton.Proofs.Source.Describing
import TestSkeleton.Proofs.Source.Function
import TestSkeleton.Proofs.Source.SingleBase
import TestSkeleton.Proofs.TestClass.Failure

set_option autoImplicit false

/-! # Classes with other bases

Two classes with the same name and the same body have the same tests, whatever their bases. What a
class has of its own comes from its body, and only its own methods are tested. The bases show in
three ways only: a class that keeps count of what is abstract in it replaces what its body has bound
to the name for this (`LeavesBody`); a maker can put other classes in front of the class
(`StandsFirst`); and methods are described whether they are tested or not, which fails if one of them
cannot be described (`InheritsDescribable`).
-/

namespace TestSkeleton

open Text

/-! ## Attributes of classes -/

namespace ClassTable

/-- The class does not replace what its body has bound. -/
def LeavesBody (t : ClassTable) (d : ClassDraft) (c : ClassRef) : Prop :=
  t.countsAbstract c = true → d.names.lookup abstractNamesName = none

/-- The class comes first among itself and its ancestors when its attributes are looked up. Only
the maker of a class can ask for another order. -/
def StandsFirst (t : ClassTable) (c : ClassRef) : Prop := ∃ ancestors, t.lineage c = c :: ancestors

variable {t : ClassTable} {d d₁ d₂ : ClassDraft} {c c₁ c₂ : ClassRef}

theorem IsMade.className_eq (h : t.IsMade d c) : t.className c = d.name := by
  obtain ⟨n, made, -, -, -, rfl, hmade, -, -, hname, -⟩ := h.exists_declared
  simp [className, hmade, hname]

/-- The attributes of a class come from its body and from the form of its objects. -/
theorem IsMade.own?_eq (h : t.IsMade d c) :
    ∃ (before : ClassTable) (base : ClassRef) (form : ObjectForm),
      before.objectForm d base = .ok form
        ∧ ∀ m ≠ abstractNamesName, t.own? m c = (settle d form).lookup m := by
  obtain ⟨n, made, before, base, form, rfl, hmade, -, hform, -, -, hown⟩ := h.exists_declared
  refine ⟨before, base, form, hform, fun m hm => ?_⟩
  rw [own?, hmade, Option.bind_some, hown, ownLayer]
  split
  · exact Layer.lookup_bind_of_ne hm
  · rfl

/-- What the body of a class has bound is an attribute of the class. -/
theorem IsMade.own?_of_kept (h : t.IsMade d c) {m : Text} {b : Binding}
    (hcount : m ≠ abstractNamesName) (hkept : (kept d.names).lookup m = some b) :
    t.own? m c = some b := by
  obtain ⟨before, base, form, -, hown⟩ := h.own?_eq
  rw [hown m hcount, lookup_settle, hkept, Option.some_or]

theorem IsMade.module_eq (h : t.IsMade d c) :
    t.module c = (t.own? "__module__".toList c).getD .nothing := by
  obtain ⟨n, -, -, -, -, rfl, -⟩ := h.exists_declared
  rfl

/-- **A class whose maker has no say in it stands first.** -/
theorem IsMade.standsFirst (h : t.IsMade d c) (hmaker : d.order? = none) : t.StandsFirst c := by
  obtain ⟨ancestors, hancestors⟩ := h.exists_linearization hmaker
  obtain ⟨n, -, -, -, -, rfl, -⟩ := h.exists_declared
  exact ⟨ancestors.filter (· != .builtin Builtin.object), by
    rw [lineage, hancestors, List.filter_cons_of_pos (by simp)]⟩

/-- **An attribute of a class does not depend on its bases**, but for those that the class makes
itself. -/
theorem own?_congr (h₁ : t.IsMade d₁ c₁) (h₂ : t.IsMade d₂ c₂) (hname : d₁.name = d₂.name)
    (hnames : d₁.names = d₂.names) {m : Text} (hdictionary : m ≠ dictionarySlot)
    (hweak : m ≠ weakReferenceSlot)
    (hcount : m ≠ abstractNamesName) : t.own? m c₁ = t.own? m c₂ := by
  obtain ⟨before₁, base₁, form₁, hform₁, hown₁⟩ := h₁.own?_eq
  obtain ⟨before₂, base₂, form₂, hform₂, hown₂⟩ := h₂.own?_eq
  rw [hown₁ m hcount, hown₂ m hcount,
    lookup_settle_congr hname hnames (members_congr hname hnames hform₁ hform₂) hdictionary hweak]

end ClassTable

/-! ## Methods of layers -/

/-- What a name stands for is a function or a value, which cannot say to be anything else. -/
def Binding.IsPlain : Binding → Prop
  | function _ | value _ => True
  | _ => False

namespace Execution

/-- The methods of a layer with their names. -/
def methodsIn (x : Execution) (l : Layer) : List (Text × MethodAttribute) :=
  SourceClass.methodsOf (l.map fun a => (a.1, x.methodAttribute? a.2))

/-- A name that a body has bound as the method that is tested by it: a function, a static method or
a class method, if the name is public and the method is not abstract. -/
def tested? (x : Execution) (a : Text × Binding) : Option Method :=
  match x.methodAttribute? a.2 with
  | some m =>
    if a.1.head? = some '_' ∨ m.isAbstract = true then none
    else some { name := a.1, isStatic := m.isStatic, doc := dedent (m.doc.getD []) }
  | none => none

/-- The tested methods among the names that a body has bound, in their order. -/
def testedIn (x : Execution) (names : Layer) : List Method := names.filterMap x.tested?

variable {x : Execution} {l : Layer} {n : Text} {b : Binding}

theorem methodsIn_append (l₁ l₂ : Layer) :
    x.methodsIn (l₁ ++ l₂) = x.methodsIn l₁ ++ x.methodsIn l₂ := by
  simp [methodsIn, SourceClass.methodsOf]

theorem methodsIn_cons (a : Text × Binding) (l : Layer) :
    x.methodsIn (a :: l) = x.methodsIn [a] ++ x.methodsIn l := methodsIn_append [a] l

theorem methodsIn_singleton_of_none (h : x.methodAttribute? b = none) :
    x.methodsIn [(n, b)] = [] := by
  simp [methodsIn, SourceClass.methodsOf, h]

/-- What is no method can take the place of what is none. -/
theorem methodsIn_bind (hb : x.methodAttribute? b = none)
    (h : ∀ b', l.lookup n = some b' → x.methodAttribute? b' = none) :
    x.methodsIn (l.bind n b) = x.methodsIn l := by
  induction l with
  | nil => exact methodsIn_singleton_of_none hb
  | cons a l ih =>
      obtain ⟨m, b'⟩ := a
      rw [Layer.bind]
      split
      next hm =>
        obtain rfl : m = n := eq_of_beq hm
        have hb' : x.methodAttribute? b' = none := h b' (by simp)
        rw [methodsIn_cons, methodsIn_cons (m, b'), methodsIn_singleton_of_none hb,
          methodsIn_singleton_of_none hb']
      next hm =>
        have hne : (n == m) = false := by
          rw [beq_eq_false_iff_ne]
          rintro rfl
          exact hm (beq_self_eq_true _)
        rw [methodsIn_cons, methodsIn_cons (m, b') l,
          ih fun b'' hb'' => h b'' (by simpa [List.lookup_cons, hne] using hb'')]

theorem methodsIn_bindMissing (hb : x.methodAttribute? b = none) :
    x.methodsIn (l.bindMissing n b) = x.methodsIn l := by
  unfold Layer.bindMissing
  split
  · rfl
  · rw [methodsIn_append, methodsIn_singleton_of_none hb, List.append_nil]

theorem methodsIn_foldl_bindMissing {added : Layer}
    (h : ∀ a ∈ added, x.methodAttribute? a.2 = none) (l : Layer) :
    x.methodsIn (added.foldl (fun l a => l.bindMissing a.1 a.2) l) = x.methodsIn l := by
  induction added generalizing l with
  | nil => rfl
  | cons a added ih =>
      rw [List.foldl_cons, ih fun a' ha' => h a' (List.mem_cons_of_mem _ ha'),
        methodsIn_bindMissing (h a List.mem_cons_self)]

/-- **Functions can be described**; what cannot is a method that is made of something else, or an
object that says to be one. -/
theorem isDescribable_of_mem_methodsIn (hlimit : x.callLimit ≠ 0) (h : ∀ a ∈ l, a.2.IsPlain)
    {m : Text × MethodAttribute} (hm : m ∈ x.methodsIn l) : m.2.IsDescribable := by
  obtain ⟨a, ha, hm⟩ := List.mem_filterMap.mp hm
  obtain ⟨a, hal, rfl⟩ := List.mem_map.mp ha
  obtain ⟨m, hmethod, rfl⟩ := Option.map_eq_some_iff.mp hm
  obtain ⟨n, b⟩ := a
  cases b with
  | function f =>
      rw [methodAttribute?_function hlimit] at hmethod
      cases hmethod
      exact ⟨rfl, rfl⟩
  | value v => cases hmethod
  | _ => exact (h _ hal).elim

/-! ## Methods of classes -/

variable {d : ClassDraft} {form : ClassTable.ObjectForm} {maker : ClassRef}

/-- What a class adds to the names of its body is no method. -/
theorem methodAttribute?_of_mem_added {a : Text × Binding} (h : a ∈ ClassTable.added d form) :
    x.methodAttribute? a.2 = none := by
  unfold ClassTable.added at h
  simp only [List.mem_append, List.mem_map, List.mem_singleton, List.mem_ite_nil_right] at h
  rcases h with (((⟨m, -, rfl⟩ | ⟨-, rfl⟩) | ⟨-, rfl⟩) | rfl) | ⟨-, rfl⟩ <;> rfl

theorem methodsIn_settle : x.methodsIn (ClassTable.settle d form)
    = x.methodsIn (ClassTable.kept d.names) := by
  rw [ClassTable.settle_eq]
  exact methodsIn_foldl_bindMissing (fun a ha => methodAttribute?_of_mem_added ha) _

/-- **The methods that a class has itself** are those that its body has bound, unless the class
replaces what is bound there. -/
theorem methodsIn_ownLayer {t : ClassTable}
    (h : t.keepsCount maker = true → d.names.lookup ClassTable.abstractNamesName = none) :
    x.methodsIn (t.ownLayer d form maker) = x.methodsIn (ClassTable.kept d.names) := by
  unfold ClassTable.ownLayer
  split
  next hcount =>
    rw [methodsIn_bind rfl, methodsIn_settle]
    -- the body leaves the name unbound, so what is replaced is an addition of the class
    intro b' hb'
    rw [ClassTable.lookup_settle, ClassTable.lookup_kept_eq_none (h hcount), Option.none_or] at hb'
    exact methodAttribute?_of_mem_added (mem_of_lookup_eq_some hb')
  next => exact methodsIn_settle

/-! ## Tested methods -/

/-- What has a name that is not public is not tested. -/
theorem tested?_of_private {a : Text × Binding} (h : a.1.head? = some '_') :
    x.tested? a = none := by
  unfold tested?
  split <;> simp [h]

/-- What is tested of a function is told by its name and by its definition. -/
theorem tested?_function (hlimit : x.callLimit ≠ 0) (n : Text) (f : Function) :
    x.tested? (n, .function f)
      = if n.head? = some '_' ∨ f.isAbstract = true then none
        else some { name := n, doc := dedent (f.doc.getD []) } := by
  unfold tested?
  simp only [methodAttribute?_function hlimit, Option.getD_some]

/-- A public method of a class that is not abstract, as it is described. -/
theorem method_eq {m : MethodAttribute} (hpublic : n.head? ≠ some '_')
    (hconcrete : m.isAbstract = false) :
    SourceClass.method true n m
      = { name := n, isStatic := m.isStatic, doc := dedent (m.doc.getD []) } := by
  have hprivate : ∀ n ∈ SourceClass.constructorNames, n.head? = some '_' := by decide
  have hconstructor : n ∉ SourceClass.constructorNames := fun h => hpublic (hprivate n h)
  simp [SourceClass.method, hpublic, hconcrete, hconstructor]

/-- The methods of a class that are tested are public and not abstract. -/
theorem filter_isEligible_methodsIn (l : Layer) :
    ((x.methodsIn l).map fun m => SourceClass.method true m.1 m.2).filter Method.isEligible
      = x.testedIn l := by
  unfold methodsIn SourceClass.methodsOf testedIn
  rw [List.filterMap_map, List.map_filterMap, List.filter_filterMap]
  refine List.filterMap_congr fun a _ => ?_
  show Option.filter _ (Option.map _ (Option.map _ (x.methodAttribute? a.2))) = _
  unfold tested?
  cases x.methodAttribute? a.2 with
  | none => rfl
  | some m =>
      simp only [Option.map_some, Option.filter_some]
      by_cases hpublic : a.1.head? = some '_'
      · simp [hpublic, SourceClass.method, Method.isEligible]
      · cases hconcrete : m.isAbstract with
        | true => simp [hconcrete, SourceClass.method, Method.isEligible]
        | false => simp [hpublic, method_eq hpublic hconcrete, Method.isEligible]

/-- The functions that are made methods of the class itself are not tested. -/
theorem tested?_settleMethod (a : Text × Binding) :
    x.tested? (ClassTable.settleMethod a) = x.tested? a := by
  by_cases h : a.1.head? = some '_'
  · rw [tested?_of_private h, tested?_of_private (by rwa [ClassTable.settleMethod_fst])]
  · rw [ClassTable.settleMethod_of_public h]

/-- No method is tested, or not, because of how the class keeps its names. -/
theorem testedIn_kept (names : Layer) : x.testedIn (ClassTable.kept names) = x.testedIn names := by
  have hpassing : ∀ n ∈ ClassTable.passingNames, n.head? = some '_' := by decide
  unfold ClassTable.kept testedIn
  rw [List.filterMap_map, List.filterMap_filter]
  refine List.filterMap_congr fun a _ => ?_
  split
  next => exact tested?_settleMethod a
  next hkept =>
    have hmem : a.1 ∈ ClassTable.passingNames := by simpa using hkept
    exact (tested?_of_private (hpassing _ hmem)).symm

end Execution

/-! ## Descriptions -/

namespace Execution

variable {x : Execution} {d d₁ d₂ : ClassDraft} {c c₁ c₂ : ClassRef}

/-! ### Classes that stand first -/

/-- Where the methods of a class are seen, it adds none if it comes again. -/
theorem isOwn_eq_false_of_mem_firstMethods {seen : List Text} (cs : List ClassRef)
    (hseen : ∀ m ∈ SourceClass.methodsOf (x.layerOf c), m.1 ∈ seen)
    {m : Bool × Text × MethodAttribute}
    (hm : m ∈ SourceClass.firstMethods seen (cs.map fun k => (k == c, x.layerOf k))) :
    m.1 = false := by
  induction cs generalizing seen with
  | nil => cases hm
  | cons k cs ih =>
      rw [List.map_cons, SourceClass.firstMethods, List.mem_append] at hm
      rcases hm with hm | hm
      · obtain ⟨a, ha, rfl⟩ := List.mem_map.mp hm
        obtain ⟨hmethod, hnew⟩ := List.mem_filter.mp ha
        refine beq_eq_false_iff_ne.mpr ?_
        rintro rfl
        simp [hseen a hmethod] at hnew
      · exact ih (fun a ha => List.mem_append_left _ (hseen a ha)) hm

/-- **A class that stands first has all its methods**, and what else it is found to have it
inherits. -/
theorem exists_inherited_of_standsFirst (h : x.table.StandsFirst c) :
    ∃ inherited : List (Text × MethodAttribute), (x.sourceClass c).foundMethods
      = (SourceClass.methodsOf (x.layerOf c)).map (fun m => (true, m))
        ++ inherited.map fun m => (false, m) := by
  obtain ⟨cs, hcs⟩ := h
  have hlayers : (x.sourceClass c).layers
      = (c == c, x.layerOf c) :: cs.map fun k => (k == c, x.layerOf k) := by
    show (x.table.lineage c).map _ = _
    rw [hcs, List.map_cons]
  generalize hrest : SourceClass.firstMethods ((SourceClass.methodsOf (x.layerOf c)).map Prod.fst)
    (cs.map fun k => (k == c, x.layerOf k)) = rest
  have hinherited : ∀ m ∈ rest, m.1 = false := fun m hm =>
    isOwn_eq_false_of_mem_firstMethods cs (fun a ha => List.mem_map_of_mem ha) (hrest ▸ hm)
  refine ⟨rest.map Prod.snd, ?_⟩
  rw [SourceClass.foundMethods, hlayers, SourceClass.firstMethods]
  simp only [List.contains_nil, Bool.not_false, List.filter_true, List.nil_append, beq_self_eq_true,
    hrest, List.map_map]
  congr 1
  exact (List.map_id' rest).symm.trans
    (List.map_congr_left fun m hm => Prod.ext (hinherited m hm) rfl)

theorem ownMethods_of_standsFirst (h : x.table.StandsFirst c) :
    (x.sourceClass c).ownMethods = SourceClass.methodsOf (x.layerOf c) := by
  obtain ⟨inherited, hfound⟩ := exists_inherited_of_standsFirst h
  rw [SourceClass.ownMethods, hfound]
  simp [List.filter_map, Function.comp_def]

theorem foundMethods_of_standsFirst (h : x.table.StandsFirst c) : (x.sourceClass c).foundMethods
    = (x.sourceClass c).ownMethods.map (fun m => (true, m))
      ++ (x.sourceClass c).inheritedMethods.map fun m => (false, m) := by
  obtain ⟨inherited, hfound⟩ := exists_inherited_of_standsFirst h
  rw [ownMethods_of_standsFirst h, SourceClass.inheritedMethods, hfound]
  simp [List.filter_map, Function.comp_def]

/-! ### Classes that are made -/

/-- **The methods among the attributes of a class** are those that its body has bound. -/
theorem methodsOf_layerOf_of_isMade (h : x.table.IsMade d c) (hbody : x.table.LeavesBody d c) :
    SourceClass.methodsOf (x.layerOf c) = x.methodsIn (ClassTable.kept d.names) := by
  obtain ⟨n, made, before, base, form, rfl, hmade, hkept, hform, -, -, hown⟩ := h.exists_declared
  have hcount (hkeeps : before.keepsCount made.maker = true) :
      x.table.countsAbstract (.declared n) = true := by
    have hmaker : x.table.metaclass (.declared n) = made.maker := by
      rw [ClassTable.metaclass, hmade, Option.map_some, Option.getD_some]
    rw [ClassTable.countsAbstract, hmaker]
    exact ClassTable.isSubclass_of_prefix hkept hkeeps
  have hlayer : SourceClass.methodsOf (x.layerOf (.declared n))
      = x.methodsIn (before.ownLayer d form made.maker) := by
    simp [methodsIn, layerOf, hmade, hown]
  rw [hlayer]
  exact methodsIn_ownLayer fun hkeeps => hbody (hcount hkeeps)

theorem ownMethods_of_isMade (h : x.table.IsMade d c) (hbody : x.table.LeavesBody d c)
    (hfirst : x.table.StandsFirst c) :
    (x.sourceClass c).ownMethods = x.methodsIn (ClassTable.kept d.names) :=
  (ownMethods_of_standsFirst hfirst).trans (methodsOf_layerOf_of_isMade h hbody)

/-- **The tested methods of a class** are those that its body has bound. -/
theorem eligible_of_isMade (h : x.table.IsMade d c) (hbody : x.table.LeavesBody d c)
    (hfirst : x.table.StandsFirst c) (module? : Option Text) :
    ((x.sourceClass c).describe module?).eligible = x.testedIn d.names := by
  rw [SourceClass.eligible_describe, ownMethods_of_isMade h hbody hfirst,
    filter_isEligible_methodsIn, testedIn_kept]

theorem sourceClass_doc (x : Execution) (c : ClassRef) : (x.sourceClass c).doc
    = (x.table.own? Builtin.docName c).elim (pure (some [])) x.docText := rfl

theorem importModule?_of_text {m : Text} (h : x.table.module c = .text m) :
    (x.sourceClass c).importModule?.isSome = true := by
  unfold SourceClass.importModule? sourceClass
  rw [h]
  rfl

/-- **A class of functions and values can be described** if its doc comment and its module are
texts. -/
theorem exists_describe_of_plain {doc module : Text} (hlimit : x.callLimit ≠ 0)
    (hdoc : x.table.own? Builtin.docName c = some (.text doc))
    (hmodule : x.table.module c = .text module)
    (hlayers : ∀ l ∈ (x.sourceClass c).layers, ∃ names : Layer,
      SourceClass.methodsOf l.2 = x.methodsIn names ∧ ∀ a ∈ names, a.2.IsPlain) :
    ∃ i, ((x.sourceClass c).describe? none).result = .ok i := by
  have hmethods : ∀ m ∈ (x.sourceClass c).foundMethods, m.2.2.IsDescribable := by
    intro m hm
    obtain ⟨l, hl, hm⟩ := SourceClass.exists_layer_of_mem_firstMethods hm
    obtain ⟨names, hnames, hplain⟩ := hlayers _ hl
    rw [hnames] at hm
    exact isDescribable_of_mem_methodsIn hlimit hplain hm
  obtain ⟨hown, hinherits⟩ := SourceClass.forall_mem_foundMethods_iff.mp hmethods
  have htells : (x.sourceClass c).TellsOwn := by
    refine ⟨⟨doc, ?_⟩, hown⟩
    rw [sourceClass_doc, hdoc]
    exact congrArg Logged.result (docText_definition (some doc))
  exact ⟨_, SourceClass.describe?_eq_ok_iff.mpr
    ⟨htells, hinherits, .inr (importModule?_of_text hmodule), rfl⟩⟩

/-! ### Classes with the same name and the same body -/

section Congr

variable (h₁ : x.table.IsMade d₁ c₁) (h₂ : x.table.IsMade d₂ c₂) (hname : d₁.name = d₂.name)
  (hnames : d₁.names = d₂.names)

include h₁ h₂ hname hnames

theorem doc_congr : (x.sourceClass c₁).doc = (x.sourceClass c₂).doc := by
  rw [sourceClass_doc, sourceClass_doc,
    ClassTable.own?_congr h₁ h₂ hname hnames (by decide) (by decide) (by decide)]

theorem importModule?_congr :
    (x.sourceClass c₁).importModule? = (x.sourceClass c₂).importModule? := by
  unfold SourceClass.importModule? sourceClass
  rw [h₁.module_eq, h₂.module_eq,
    ClassTable.own?_congr h₁ h₂ hname hnames (by decide) (by decide) (by decide)]

variable (hbody₁ : x.table.LeavesBody d₁ c₁) (hbody₂ : x.table.LeavesBody d₂ c₂)
  (hfirst₁ : x.table.StandsFirst c₁) (hfirst₂ : x.table.StandsFirst c₂)

include hbody₁ hbody₂ hfirst₁ hfirst₂

omit hname in
theorem ownMethods_congr : (x.sourceClass c₁).ownMethods = (x.sourceClass c₂).ownMethods := by
  rw [ownMethods_of_isMade h₁ hbody₁ hfirst₁, ownMethods_of_isMade h₂ hbody₂ hfirst₂, hnames]

/-- What a class is described by does not depend on its bases, but for the methods it inherits. -/
theorem describe_congr (module? : Option Text) :
    ((x.sourceClass c₁).describe module?).eligibleOnly
      = ((x.sourceClass c₂).describe module?).eligibleOnly := by
  have hself : (x.sourceClass c₁).name = (x.sourceClass c₂).name :=
    h₁.className_eq.trans (hname.trans h₂.className_eq.symm)
  have hdoc : (x.sourceClass c₁).docText = (x.sourceClass c₂).docText := by
    rw [SourceClass.docText, SourceClass.docText, doc_congr h₁ h₂ hname hnames]
  unfold ClassInfo.eligibleOnly
  rw [eligible_of_isMade h₁ hbody₁ hfirst₁, eligible_of_isMade h₂ hbody₂ hfirst₂, hnames]
  unfold SourceClass.describe
  rw [hself, importModule?_congr h₁ h₂ hname hnames, hdoc]

omit hname in
/-- Whether methods can be described is asked of the same methods, if those that are inherited
can. -/
theorem result_checkAll_congr (hinherits₁ : (x.sourceClass c₁).InheritsDescribable)
    (hinherits₂ : (x.sourceClass c₂).InheritsDescribable) :
    (MethodAttribute.checkAll ((x.sourceClass c₁).foundMethods.map fun m => m.2.2)).result
      = (MethodAttribute.checkAll ((x.sourceClass c₂).foundMethods.map fun m => m.2.2)).result := by
  have hcheck {c : ClassRef} (hfirst : x.table.StandsFirst c)
      (hinherits : (x.sourceClass c).InheritsDescribable) :
      (MethodAttribute.checkAll ((x.sourceClass c).foundMethods.map fun m => m.2.2)).result
        = (MethodAttribute.checkAll ((x.sourceClass c).ownMethods.map Prod.snd)).result := by
    rw [foundMethods_of_standsFirst hfirst, List.map_append, List.map_map, List.map_map]
    exact MethodAttribute.result_checkAll_append (List.forall_mem_map.mpr hinherits)
  rw [hcheck hfirst₁ hinherits₁, hcheck hfirst₂ hinherits₂,
    ownMethods_congr h₁ h₂ hnames hbody₁ hbody₂ hfirst₁ hfirst₂]

end Congr

end Execution

/-! ## A class with bases to choose from -/

namespace Shop

/-- A class without a base that comes with this number. -/
def baseClass (number : Nat) (name : Text) (own : Layer) : DeclaredClass where
  name
  qualifiedName := name
  own
  linearization := [.declared number, .builtin Builtin.object]
  base := .builtin Builtin.object
  layout := .builtin Builtin.object
  hasDictionary := true
  isWeaklyReferable := true

/-- A doc comment that is a number. -/
def oddAttributes : Layer := [(Builtin.docName, .value (.int 5))]

/-- Two methods; the second has the name of one of the class `cart`. -/
def pricedMethods : Layer := [
  ("tax", .function { name := "tax", qualifiedName := "Priced.tax", doc := some "@assert" }),
  ("price", .function { name := "price", qualifiedName := "Priced.price" })]

/-- Three classes: one whose doc comment is a number, one with two methods, and one with a static
method that is an object of the first class. -/
def bases : ClassTable where
  classes := [
    baseClass 0 "Odd" oddAttributes,
    baseClass 1 "Priced" pricedMethods,
    baseClass 2 "Strange" [
      ("tax", .staticMethod (.builtin "staticmethod") (.object (.declared 0) false))]]

/-- A method that is not public, and one that is tested. -/
def sum : Function := { name := "_sum", qualifiedName := "Cart._sum", doc := some "@assert" }
def price : Function :=
  { name := "price", qualifiedName := "Cart.price", doc := some "@assert (2) == 4" }

/-- A class without a base. -/
def cart : ClassDraft where
  name := "Cart"
  bases := []
  names := [("__module__", .text "shop"), ("__doc__", .text "@assert (1)"),
    ("_sum", .function sum), ("price", .function price)]

/-- The class made without a base, with the second of the three and with the third of them. -/
def withCart : ClassTable := bases.withBaseless cart
def withPriced : ClassTable :=
  withCart.withPlain { cart with bases := [.declared 1] } (.declared 1)
    [.declared 4, .declared 1, .builtin Builtin.object]
def withStrange : ClassTable :=
  withPriced.withPlain { cart with bases := [.declared 2] } (.declared 2)
    [.declared 5, .declared 2, .builtin Builtin.object]

/-- A program with all these classes. -/
def program : Execution := { table := withStrange, callLimit := 1 }

theorem cart_isMade : program.table.IsMade cart (.declared 3) := by
  have hkept : withCart.classes <+: withStrange.classes :=
    ClassTable.classes_prefix_withPlain.trans ClassTable.classes_prefix_withPlain
  exact ⟨ClassTable.declare_of_noBase (t := bases) rfl rfl rfl rfl rfl, hkept⟩

theorem pricedCart_isMade :
    program.table.IsMade { cart with bases := [.declared 1] } (.declared 4) :=
  ⟨ClassTable.declare_of_plain (t := withCart) rfl rfl (ClassTable.orderOf_single rfl rfl _ _) rfl rfl
    rfl, ClassTable.classes_prefix_withPlain⟩

theorem strangeCart_isMade :
    program.table.IsMade { cart with bases := [.declared 2] } (.declared 5) :=
  ⟨ClassTable.declare_of_plain (t := withPriced) rfl rfl (ClassTable.orderOf_single rfl rfl _ _) rfl
    rfl rfl, List.prefix_refl _⟩

/-- The body of the class says nothing of what is abstract in it. -/
theorem leavesBody (bases : List ClassRef) (c : ClassRef) :
    program.table.LeavesBody { cart with bases } c := fun _ => rfl

theorem kept_cart : ClassTable.kept cart.names = cart.names := rfl

theorem cart_tellsOwn : (program.sourceClass (.declared 3)).TellsOwn := by
  have hdoc : program.table.own? Builtin.docName (.declared 3) = some (.text "@assert (1)") :=
    cart_isMade.own?_of_kept (by decide) (by rw [kept_cart]; rfl)
  refine ⟨⟨"@assert (1)", ?_⟩, fun m hm => ?_⟩
  · rw [Execution.sourceClass_doc, hdoc]
    rfl
  · rw [Execution.ownMethods_of_isMade cart_isMade (leavesBody _ _) (cart_isMade.standsFirst rfl),
      kept_cart] at hm
    exact Execution.isDescribable_of_mem_methodsIn Nat.one_ne_zero
      (by simp [cart, Binding.text, Binding.IsPlain]) hm

theorem cart_inheritsDescribable : (program.sourceClass (.declared 3)).InheritsDescribable := by
  have hlayers : (program.sourceClass (.declared 3)).layers
      = [(true, program.layerOf (.declared 3))] := rfl
  intro m hm
  obtain ⟨l, hl, -⟩ := SourceClass.exists_layer_of_mem_inheritedMethods hm
  rw [hlayers, List.mem_singleton] at hl
  cases hl

theorem pricedCart_inheritsDescribable :
    (program.sourceClass (.declared 4)).InheritsDescribable := by
  have hlayers : (program.sourceClass (.declared 4)).layers
      = [(true, program.layerOf (.declared 4)), (false, program.layerOf (.declared 1))] := rfl
  have hmethods : SourceClass.methodsOf (program.layerOf (.declared 1))
      = program.methodsIn pricedMethods := rfl
  intro m hm
  obtain ⟨l, hl, hm⟩ := SourceClass.exists_layer_of_mem_inheritedMethods hm
  rw [hlayers, List.mem_cons, List.mem_singleton] at hl
  obtain ⟨⟨⟩⟩ | ⟨⟨⟩⟩ := hl
  rw [hmethods] at hm
  exact Execution.isDescribable_of_mem_methodsIn Nat.one_ne_zero
    (by simp [pricedMethods, Binding.IsPlain]) hm

/-- The doc comment of an object of the first class is that of the class, which is a number. -/
theorem attributeOf_odd : program.attributeOf (.object (.declared 0) false) Builtin.docName
    = pure (.value (.int 5)) := by
  have hasked (m : Text) (hm : m ≠ Builtin.docName) :
      program.table.declaredAttribute? (.declared 0) m = none := by
    have hmade : program.table.declared? 0 = some (baseClass 0 "Odd" oddAttributes) := rfl
    have horder : (baseClass 0 "Odd" oddAttributes).linearization
        = .declared 0 :: [Builtin.object].map .builtin := rfl
    have hlookup : (baseClass 0 "Odd" oddAttributes).own.lookup m = none := by
      show oddAttributes.lookup m = none
      rw [oddAttributes, List.lookup_cons, beq_false_of_ne hm]
      rfl
    rw [ClassTable.declaredAttribute?_eq_lookup hmade horder, hlookup]
  have hfind : program.table.find? (.declared 0) Builtin.docName
      = some (.declared 0, .value (.int 5)) := rfl
  have hplain := ClassTable.byClass_of_none (t := program.table) (b := .object (.declared 0) false)
    (hasked "__getattribute__" (by decide)) (hasked "__getattr__" (by decide)) 1 Builtin.docName
    fun _ => ClassTable.markOf (.object (.declared 0) false) Builtin.docName
  refine (ClassTable.getAttribute_object _ _ _ _ _ _).trans (hplain.trans ?_)
  rw [ClassTable.plainAttribute_of_shared hfind rfl rfl]
  rfl

/-- The static method is no function, and its doc comment is no text. -/
theorem strangeCart_not_inheritsDescribable :
    ¬ (program.sourceClass (.declared 5)).InheritsDescribable := by
  have hdoc : (program.describeFunction true (.object (.declared 0) false)).doc = none :=
    Execution.describeFunction_doc_of_not_text (by rw [attributeOf_odd]; rfl) rfl
  have hown : (SourceClass.methodsOf (program.layerOf (.declared 5))).map Prod.fst
      = ["_sum".toList, "price".toList] := by
    rw [Execution.methodsOf_layerOf_of_isMade strangeCart_isMade (leavesBody _ _)]
    rfl
  have hlayers : (program.sourceClass (.declared 5)).layers
      = [(true, program.layerOf (.declared 5)), (false, program.layerOf (.declared 2))] := rfl
  have hmethod : (false, "tax".toList, program.describeFunction true (.object (.declared 0) false))
      ∈ (program.sourceClass (.declared 5)).foundMethods := by
    rw [SourceClass.foundMethods, hlayers, SourceClass.firstMethods, SourceClass.firstMethods]
    simp only [List.contains_nil, Bool.not_false, List.filter_true, List.nil_append, hown]
    exact List.mem_append_right _ (List.mem_append_left _ List.mem_cons_self)
  intro h
  have hsome := (h _ (SourceClass.mem_inheritedMethods hmethod)).2
  rw [hdoc] at hsome
  cases hsome

/-- The class without a base is described, and one method of it is tested. -/
theorem cart_described : ∃ i, ((program.sourceClass (.declared 3)).describe? none).result = .ok i
    ∧ i.eligible = [{ name := "price", doc := "@assert (2) == 4" }] := by
  have hmodule : program.table.module (.declared 3) = .text "shop" := by
    rw [cart_isMade.module_eq, cart_isMade.own?_of_kept (by decide) (by rw [kept_cart]; rfl)]
    rfl
  have himport := Execution.importModule?_of_text hmodule
  refine ⟨_, SourceClass.describe?_eq_ok_iff.mpr
    ⟨cart_tellsOwn, cart_inheritsDescribable, Or.inr himport, rfl⟩, ?_⟩
  have hsum : program.tested? ("_sum", .function sum) = none := by
    rw [Execution.tested?_function (x := program) Nat.one_ne_zero, if_pos (by decide)]
  have hprice : program.tested? ("price", .function price)
      = some { name := "price", doc := "@assert (2) == 4" } := by
    rw [Execution.tested?_function (x := program) Nat.one_ne_zero, if_neg (by decide)]
    decide
  rw [Execution.eligible_of_isMade cart_isMade (leavesBody _ _) (cart_isMade.standsFirst rfl),
    Execution.testedIn]
  unfold cart
  rw [List.filterMap_cons_none rfl, List.filterMap_cons_none rfl, List.filterMap_cons_none hsum,
    List.filterMap_cons_some hprice]
  rfl

end Shop

end TestSkeleton
