import TestSkeleton.Proofs.Source.Lookup
import TestSkeleton.Proofs.Source.NewClass

set_option autoImplicit false

/-! # Classes with one base

With one base there is nothing to bring in order: the ancestors of a class are its base and those of
its base (`orderOf_single`). Such a class can always be made, if its base can have classes derived
from it and its body binds none of the names that are read when a class is made
(`declare_of_plain`). A class without bases declares what its body has bound and nothing else
(`declaredAttribute?_of_noBase`).
-/

namespace TestSkeleton

/-! ## Two built-in classes -/

namespace Builtin

theorem linearization_object : linearization object = [object] := by decide +kernel

theorem linearization_metaclass : linearization metaclass = [metaclass, object] := by
  decide +kernel

end Builtin

/-! ## Making a class -/

namespace ClassTable

variable {t : ClassTable} {d : ClassDraft} {base : ClassRef} {ancestors order : List ClassRef}

/-- **The ancestors of a class with one base** are those of the base. -/
theorem orderOf_single (h : d.order? = none) (hancestors : t.linearization base = ancestors)
    (self layout : ClassRef) : t.orderOf d self layout [base] = .ok (self :: ancestors) := by
  rw [orderOf, h, ← hancestors]
  rfl

/-- The form of the objects of a class whose body says nothing of it. -/
def plainForm (t : ClassTable) (base : ClassRef) : ObjectForm where
  addsDictionary := !t.hasDictionary base
  addsWeakReference := !t.isWeaklyReferable base && !t.isSized base

/-- A class with one base, whose body says nothing of the form of its objects. -/
def plainClass (t : ClassTable) (d : ClassDraft) (base : ClassRef) (order : List ClassRef) :
    DeclaredClass :=
  let form := t.plainForm base
  let maker := makerOf d order
  { name := d.name
    qualifiedName := d.name
    own := t.ownLayer d form maker
    linearization := order
    base
    maker
    layout := if form.members.isEmpty && !(form.addsDictionary && t.isSized base) then t.layout base
      else .declared t.classes.length
    hasDictionary := t.hasDictionary base || form.addsDictionary
    isWeaklyReferable := t.isWeaklyReferable base || form.addsWeakReference
    abstractNames :=
      if t.keepsCount maker then t.abstractNames [base] (settle d form) else [] }

/-- The table with such a class. -/
def withPlain (t : ClassTable) (d : ClassDraft) (base : ClassRef) (order : List ClassRef) :
    ClassTable :=
  ⟨t.classes ++ [t.plainClass d base order]⟩

theorem classes_prefix_withPlain : t.classes <+: (t.withPlain d base order).classes :=
  List.prefix_append _ _

/-- A class whose body says nothing of its qualified name has its own one. -/
theorem qualifiedNameOf_of_none (h : d.names.lookup "__qualname__".toList = none) :
    t.qualifiedNameOf d = .ok d.name := by
  rw [qualifiedNameOf, h]

/-- **A class with one base can be made** if its body binds none of the other names that are read
for this. -/
theorem declare_of_plain
    (hbases : (if d.bases.isEmpty then [.builtin Builtin.object] else d.bases) = [base])
    (hbase : checkBase base = .ok ())
    (horder : t.orderOf d (.declared t.classes.length) (t.layout base) [base] = .ok order)
    (hslots : d.names.lookup "__slots__".toList = none)
    (hname : t.qualifiedNameOf d = .ok d.name)
    (hcell : d.names.lookup "__classcell__".toList = none) :
    t.declare d = .ok (t.withPlain d base order, .declared t.classes.length) := by
  have hform : t.objectForm d base = .ok (t.plainForm base) := by
    unfold objectForm
    simp only [hslots]
    rfl
  have hcell : t.checkCell d = .ok () := by
    unfold checkCell
    rw [hcell]
  have hbases : basesOf d = [base] := hbases
  have hsettled : t.formOf d = .ok ⟨base, t.plainForm base, d.name⟩ := by
    unfold formOf baseOf
    simp only [hbases, hbase, hform, hname, hcell, bestBase, Bind.bind, Except.bind, Pure.pure,
      Except.pure]
  unfold declare
  simp only [hbases, hsettled, horder, Bind.bind, Except.bind, Pure.pure, Except.pure]
  rfl

/-! ## The class above all others -/

theorem linearization_object :
    t.linearization (.builtin Builtin.object) = [.builtin Builtin.object] :=
  congrArg (List.map ClassRef.builtin) Builtin.linearization_object

/-- The objects of the class above all others have the form that it gives them. -/
theorem layout_object : t.layout (.builtin Builtin.object) = .builtin Builtin.object := by
  rw [layout, Builtin.linearization_object, List.find?_singleton]
  split <;> rfl

theorem checkBase_builtin {name : Text} (h : Builtin.finalClasses.contains name = false) :
    checkBase (.builtin name) = .ok () := by
  unfold checkBase
  simp only [h, Bool.false_eq_true, if_false]

theorem checkBase_object : checkBase (.builtin Builtin.object) = .ok () := by
  have hfinal : Builtin.finalClasses.contains Builtin.object = false := by
    unfold Builtin.finalClasses
    rw [String.toList_ofList]
    decide
  exact checkBase_builtin hfinal

/-- A class without bases, and the table with it. -/
abbrev baseless (t : ClassTable) (d : ClassDraft) : DeclaredClass :=
  t.plainClass d (.builtin Builtin.object) [.declared t.classes.length, .builtin Builtin.object]
abbrev withBaseless (t : ClassTable) (d : ClassDraft) : ClassTable :=
  t.withPlain d (.builtin Builtin.object) [.declared t.classes.length, .builtin Builtin.object]

/-- A class without a base can be made in the same way. -/
theorem declare_of_noBase (hbases : d.bases = []) (horder : d.order? = none)
    (hslots : d.names.lookup "__slots__".toList = none)
    (hname : t.qualifiedNameOf d = .ok d.name)
    (hcell : d.names.lookup "__classcell__".toList = none) :
    t.declare d = .ok (t.withBaseless d, .declared t.classes.length) :=
  declare_of_plain (by rw [hbases]; rfl) checkBase_object
    (orderOf_single horder linearization_object _ _) hslots hname hcell

theorem linearization_withPlain :
    (t.withPlain d base order).linearization (.declared t.classes.length) = order := by
  simp [linearization, declared?, withPlain, plainClass]

/-! ## What a class without bases declares -/

/-- The names that a class adds by itself. -/
def addedNames : List Text :=
  [dictionarySlot, weakReferenceSlot, Builtin.docName, "__hash__".toList]

theorem lookup_added_eq_none {form : ObjectForm} {m : Text} (hmembers : form.members = [])
    (hm : m ∉ addedNames) : (added d form).lookup m = none := by
  rw [List.lookup_eq_none_iff]
  intro a ha
  rw [bne_iff_ne]
  rintro rfl
  apply hm
  simp only [added, hmembers, List.map_nil, List.nil_append, List.mem_append,
    List.mem_ite_nil_right, List.mem_singleton] at ha
  obtain ((⟨-, rfl⟩ | ⟨-, rfl⟩) | rfl) | ⟨-, rfl⟩ := ha <;> simp [addedNames, getterOf]

theorem linearization_metaclass : t.linearization (.builtin Builtin.metaclass)
    = [.builtin Builtin.metaclass, .builtin Builtin.object] :=
  congrArg (List.map ClassRef.builtin) Builtin.linearization_metaclass

/-- The built-in class that makes classes keeps no count of what is abstract in them. -/
theorem keepsCount_metaclass : t.keepsCount (.builtin Builtin.metaclass) = false := by
  rw [keepsCount, isSubclass, linearization_metaclass]
  decide

/-- A thing with a built-in class makes nothing of the name that it is bound to. -/
theorem asksForName_of_builtin {b : Binding} {cls : Text} (h : t.classOf b = .builtin cls) :
    t.asksForName b = false := by
  unfold asksForName
  rw [h, declaredAttribute?_builtin]

/-- A class without bases declares what its body keeps, and else what is added to that. -/
theorem declaredAttribute?_withBaseless (hmaker : d.maker? = none) (m : Text) :
    (t.withBaseless d).declaredAttribute? (.declared t.classes.length) m
      = ((kept d.names).lookup m).or
          ((added d (t.plainForm (.builtin Builtin.object))).lookup m) := by
  have hmade : (t.withBaseless d).declared? t.classes.length = some (t.baseless d) := by
    simp [declared?, withPlain]
  have hown : (t.baseless d).own = settle d (t.plainForm (.builtin Builtin.object)) := by
    have hself : (t.baseless d).maker = .builtin Builtin.metaclass := by
      show makerOf d [.declared t.classes.length, .builtin Builtin.object] = _
      rw [makerOf, hmaker]
      rfl
    show t.ownLayer d _ (t.baseless d).maker = _
    rw [ownLayer, hself, keepsCount_metaclass]
    rfl
  have horder : (t.baseless d).linearization
      = .declared t.classes.length :: [Builtin.object].map .builtin := rfl
  rw [declaredAttribute?_eq_lookup hmade horder, hown, lookup_settle]

/-- **A class without bases declares what its body keeps.** -/
theorem declaredAttribute?_of_noBase (hmaker : d.maker? = none) {m : Text} (hm : m ∉ addedNames) :
    (t.withBaseless d).declaredAttribute? (.declared t.classes.length) m
      = (kept d.names).lookup m := by
  rw [declaredAttribute?_withBaseless hmaker, lookup_added_eq_none rfl hm, Option.or_none]

end ClassTable

end TestSkeleton
