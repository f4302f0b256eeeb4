import TestSkeleton.Proofs.Source.Methods

set_option autoImplicit false

/-! # Hidden methods

Lookup of a name in a class and its ancestors ends at the first of them that has the name, whatever
it stands for there. A class is described by the first *method* of each name instead. The two agree
unless lookup ends at something else in front of a method, which it hides (`HidesMethod`); then the
class is described by a method that it does not have (`described_as_found_iff`).
-/

namespace TestSkeleton

open Text

/-- What lookup of a name finds in a class and its ancestors, and where. The class above all others
does not count. -/
def ClassTable.attribute? (t : ClassTable) (c : ClassRef) (n : Text) :
    Option (ClassRef × Binding) :=
  t.firstOwner? n (t.lineage c)

theorem ClassTable.firstOwner?_eq (t : ClassTable) (n : Text) (cs : List ClassRef) :
    t.firstOwner? n cs = cs.findSome? fun k => (t.own? n k).map fun b => (k, b) := by
  induction cs with
  | nil => rfl
  | cons k cs ih =>
      rw [firstOwner?, List.findSome?_cons]
      cases t.own? n k with
      | none => exact ih
      | some b => rfl

namespace Execution

variable {x : Execution} {c : ClassRef} {n : Text}

/-- The first method of a name in a class and its ancestors, and where it is. -/
def firstMethod? (x : Execution) (c : ClassRef) (n : Text) : Option (ClassRef × MethodAttribute) :=
  (x.table.lineage c).findSome? fun k => (x.method? n k).map fun m => (k, m)

/-- The method that lookup of a name finds, if what it finds is one. -/
def foundMethod? (x : Execution) (c : ClassRef) (n : Text) : Option (ClassRef × MethodAttribute) :=
  (x.table.attribute? c n).bind fun a => (x.methodAttribute? a.2).map fun m => (a.1, m)

/-- Lookup of a name ends at something that is no method, but the class or an ancestor of it has a
method of this name. -/
def HidesMethod (x : Execution) (c : ClassRef) (n : Text) : Prop :=
  ∃ a, x.table.attribute? c n = some a ∧ x.methodAttribute? a.2 = none
    ∧ ∃ k ∈ x.table.lineage c, (x.method? n k).isSome = true

theorem firstMethod?_eq_some_iff {a : ClassRef × MethodAttribute} :
    x.firstMethod? c n = some a ↔ ∃ before after, x.table.lineage c = before ++ a.1 :: after
      ∧ x.method? n a.1 = some a.2 ∧ ∀ k ∈ before, x.method? n k = none := by
  rw [firstMethod?, List.findSome?_eq_some_iff]
  simp only [Option.map_eq_some_iff, Option.map_eq_none_iff]
  constructor
  · rintro ⟨before, k, after, hlineage, ⟨m, hm, rfl⟩, hbefore⟩
    exact ⟨before, after, hlineage, hm, hbefore⟩
  · rintro ⟨before, after, hlineage, hm, hbefore⟩
    exact ⟨before, a.1, after, hlineage, ⟨a.2, hm, rfl⟩, hbefore⟩

/-- What lookup finds is the first method, if it finds one. -/
theorem firstMethod?_of_found {a : ClassRef × MethodAttribute} (h : x.foundMethod? c n = some a) :
    x.firstMethod? c n = some a := by
  obtain ⟨⟨k, b⟩, hfound, hmethod⟩ := Option.bind_eq_some_iff.mp h
  obtain ⟨m, hm, rfl⟩ := Option.map_eq_some_iff.mp hmethod
  rw [ClassTable.attribute?, ClassTable.firstOwner?_eq, List.findSome?_eq_some_iff] at hfound
  obtain ⟨before, k', after, hlineage, hown, hbefore⟩ := hfound
  obtain ⟨b', hb', heq⟩ := Option.map_eq_some_iff.mp hown
  obtain ⟨rfl, rfl⟩ := Prod.mk.inj heq
  refine firstMethod?_eq_some_iff.mpr ⟨before, after, hlineage, ?_, fun k hk => ?_⟩
  · rw [method?, hb']
    exact hm
  · rw [method?, Option.map_eq_none_iff.mp (hbefore k hk)]
    rfl

theorem HidesMethod.found_eq_none (h : x.HidesMethod c n) : x.foundMethod? c n = none := by
  obtain ⟨a, hfound, hnone, -⟩ := h
  rw [foundMethod?, hfound, Option.bind_some, hnone]
  rfl

theorem HidesMethod.exists_first (h : x.HidesMethod c n) : ∃ a, x.firstMethod? c n = some a := by
  obtain ⟨-, -, -, k, hk, hmethod⟩ := h
  refine Option.isSome_iff_exists.mp (List.findSome?_isSome_iff.mpr ⟨k, hk, ?_⟩)
  rw [Option.isSome_map]
  exact hmethod

/-- **Lookup finds the first method** of a name that hides none. -/
theorem found_eq_first (h : ¬ x.HidesMethod c n) : x.foundMethod? c n = x.firstMethod? c n := by
  cases hfound : x.foundMethod? c n with
  | some a => exact (firstMethod?_of_found hfound).symm
  | none =>
      refine (List.findSome?_eq_none_iff.mpr fun k hk => ?_).symm
      rw [Option.map_eq_none_iff, ← Option.not_isSome_iff_eq_none]
      intro hmethod
      obtain ⟨m, hm⟩ := Option.isSome_iff_exists.mp hmethod
      obtain ⟨b, hb, -⟩ := Option.bind_eq_some_iff.mp hm
      -- the class has the name, so lookup ends somewhere, but not at a method
      cases hattribute : x.table.attribute? c n with
      | none =>
          rw [ClassTable.attribute?, ClassTable.firstOwner?_eq, List.findSome?_eq_none_iff]
            at hattribute
          exact absurd (hattribute k hk) (by simp [hb])
      | some a =>
          rw [foundMethod?, hattribute, Option.bind_some, Option.map_eq_none_iff] at hfound
          exact h ⟨a, hattribute, hfound, k, hk, hmethod⟩

/-- A method as a class is described to have it, declared by the class itself or by an ancestor. -/
def methodFrom (c : ClassRef) (n : Text) (a : ClassRef × MethodAttribute) : Method :=
  SourceClass.method (a.1 == c) n a.2

/-- A class is described by the first method of each name. -/
theorem mem_methods_iff (h : x.table.IsBuilt) {m : Method} :
    (m ∈ (x.sourceClass c).methods ∧ m.name = n)
      ↔ (x.firstMethod? c n).map (methodFrom c n) = some m := by
  rw [methods_eq h, Option.map_eq_some_iff]
  simp only [List.mem_flatMap, List.mem_map, firstMethod?_eq_some_iff]
  constructor
  · rintro ⟨⟨⟨k, i⟩, hk, ⟨n', a⟩, ha, rfl⟩, rfl⟩
    obtain ⟨ha, hbefore⟩ := List.mem_filter.mp ha
    have hf := (mem_methodsIn_attributes h).mp ha
    rw [List.mem_zipIdx_iff_getElem?] at hk
    obtain ⟨hi, hki⟩ := List.getElem?_eq_some_iff.mp hk
    refine ⟨(k, a), ⟨(x.table.lineage c).take i, (x.table.lineage c).drop (i + 1), ?_, hf, ?_⟩,
      rfl⟩
    · rw [← hki, List.getElem_cons_drop, List.take_append_drop]
    · simpa [SourceClass.method] using hbefore
  · rintro ⟨⟨k, a⟩, ⟨before, after, hlineage, ha, hbefore⟩, rfl⟩
    refine ⟨⟨(k, before.length), ?_, (n, a), ?_, rfl⟩, rfl⟩
    · rw [List.mem_zipIdx_iff_getElem?, hlineage]
      simp
    · rw [newMethods, List.mem_filter]
      refine ⟨(mem_methodsIn_attributes h).mpr ha, ?_⟩
      rw [hlineage, List.take_left]
      simpa using hbefore

/-- **Described methods and lookup.** A class is described by the first method of each name in the
class and its ancestors. This is the method that lookup of the name finds, with what is known of it,
and there is none where lookup finds no method, if and only if the name hides no method. -/
theorem described_as_found_iff (h : x.table.IsBuilt) {module? : Option Text} {i : ClassInfo}
    (hi : ((x.sourceClass c).describe? module?).result = .ok i) (n : Text) :
    (∀ m, m ∈ i.methods ∧ m.name = n
      ↔ (x.firstMethod? c n).map (methodFrom c n) = some m) ∧
    ((∀ m, m ∈ i.methods ∧ m.name = n
      ↔ (x.foundMethod? c n).map (methodFrom c n) = some m)
        ↔ ¬ x.HidesMethod c n) := by
  obtain ⟨-, -, -, rfl⟩ := SourceClass.describe?_eq_ok_iff.mp hi
  refine ⟨fun m => mem_methods_iff h, fun hfound hhides => ?_, fun hvisible m => ?_⟩
  · obtain ⟨a, ha⟩ := hhides.exists_first
    have hm := (hfound (methodFrom c n a)).mp ((mem_methods_iff h).mpr (by rw [ha]; rfl))
    rw [hhides.found_eq_none] at hm
    cases hm
  · rw [found_eq_first hvisible]
    exact mem_methods_iff h

end Execution

/-! ## A text in front of a method -/

namespace Drawing

theorem own_name_square :
    program.table.own? "name".toList (.declared 1) = some (.text "square") :=
  square_isMade.own?_of_kept (by decide) (by rw [kept_square]; rfl)

theorem own_area_square :
    program.table.own? "area".toList (.declared 1) = some (.function squareArea) :=
  square_isMade.own?_of_kept (by decide) (by rw [kept_square]; rfl)

/-- Lookup of the name of a shape ends at the text of the square. -/
theorem attribute_name_square : program.table.attribute? (.declared 1) "name".toList
    = some (.declared 1, .text "square") := by
  rw [ClassTable.attribute?, lineage_square, ClassTable.firstOwner?_of_some own_name_square]

theorem attribute_area_square : program.table.attribute? (.declared 1) "area".toList
    = some (.declared 1, .function squareArea) := by
  rw [ClassTable.attribute?, lineage_square, ClassTable.firstOwner?_of_some own_area_square]

/-- **A method is described that the class does not have**: its name stands for a text. -/
theorem hidden_name_described :
    ∃ i, ((program.sourceClass (.declared 1)).describe? none).result = .ok i ∧
      program.table.attribute? (.declared 1) "name".toList
        = some (.declared 1, .text "square") ∧
      program.foundMethod? (.declared 1) "name".toList = none ∧
      ∃ m ∈ i.methods, m.name = "name".toList := by
  obtain ⟨i, hi⟩ := square_described
  refine ⟨i, hi, attribute_name_square, ?_, ?_⟩
  · rw [Execution.foundMethod?, attribute_name_square]
    rfl
  · rw [← List.mem_map, names_square hi]
    simp

theorem area_visible : ¬ program.HidesMethod (.declared 1) "area".toList := by
  rintro ⟨a, ha, hnone, -⟩
  rw [attribute_area_square] at ha
  cases ha
  cases hnone

/-- The method of the class itself is the only one that it is described to have under the name of
two. -/
theorem area_described_as_found :
    program.table.IsBuilt ∧ ∃ i, ((program.sourceClass (.declared 1)).describe? none).result = .ok i ∧
      ∀ m, m ∈ i.methods ∧ m.name = "area".toList ↔ m = SourceClass.method true "area".toList
        (program.describeFunction false (.function squareArea)) := by
  obtain ⟨i, hi⟩ := square_described
  obtain ⟨-, hfound⟩ := Execution.described_as_found_iff program_isBuilt hi "area".toList
  refine ⟨program_isBuilt, i, hi, fun m => (hfound.mpr area_visible m).trans ?_⟩
  have hfunction : program.methodAttribute? (.function squareArea)
      = some (program.describeFunction false (.function squareArea)) := rfl
  rw [Execution.foundMethod?, attribute_area_square, Option.bind_some, hfunction, Option.map_some,
    Option.map_some, Option.some.injEq, eq_comm, Execution.methodFrom, beq_self_eq_true]

end Drawing

end TestSkeleton
