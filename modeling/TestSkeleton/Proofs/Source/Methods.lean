import TestSkeleton.Proofs.Source.Growth
import TestSkeleton.Proofs.Source.Inheritance

set_option autoImplicit false

/-! # The methods of a class in their order

A class is described by its methods and those of its ancestors. Each class on the way adds the
methods among its own attributes, in their order, whose names no class before it has for a method
(`newMethods`); what else a name stands for there makes no difference. So no name comes twice, and
the methods of the class itself come before all others if the class does (`methods_in_order`). That
it does is up to its maker.
-/

namespace TestSkeleton

open Text

/-! ## Methods among attributes -/

/-- The attributes that a class has of its own, in their order. -/
def ClassTable.attributes (t : ClassTable) : ClassRef → Layer
  | .declared n => ((t.declared? n).map (·.own)).getD []
  | .builtin name => Builtin.layer name

/-- What is known of the method that a class has itself under a name. -/
def Execution.method? (x : Execution) (n : Text) (c : ClassRef) : Option MethodAttribute :=
  (x.table.own? n c).bind x.methodAttribute?

/-! ## Built-in classes -/

namespace Builtin

theorem nodup_eraseDups : ∀ names : List Text, names.eraseDups.Nodup
  | [] => List.nodup_nil
  | n :: names => by
      have hlength := List.length_filter_le (fun m => !m == n) names
      rw [List.eraseDups_cons]
      refine List.nodup_cons.mpr ⟨?_, nodup_eraseDups _⟩
      simp
termination_by names => names.length

/-- A built-in class has each attribute once. -/
theorem isDistinct_layer (cls : Text) : (layer cls).IsDistinct := by
  have hnames : (layer cls).map Prod.fst
      = (attributeNames cls).filter fun n => (ownAttribute? cls n).isSome := by
    unfold layer
    rw [List.map_filterMap, ← List.filterMap_eq_filter]
    refine List.filterMap_congr fun n _ => ?_
    cases hown : ownAttribute? cls n <;> simp [Option.guard, hown]
  rw [Layer.IsDistinct, hnames]
  exact (nodup_eraseDups _).sublist List.filter_sublist

/-- The methods of a built-in class are among its attributes. -/
theorem mem_attributeNames_of_method {x : Execution} {cls n : Text} {b : Binding}
    {m : MethodAttribute} (h : ownAttribute? cls n = some b) (hb : x.methodAttribute? b = some m) :
    n ∈ attributeNames cls := by
  unfold attributeNames
  rw [List.mem_eraseDups]
  unfold ownAttribute? at h
  split at h
  next hlookup =>
    have hname := List.mem_map_of_mem (f := Prod.fst) (mem_of_lookup_eq_some hlookup)
    exact List.mem_append_left _ (List.mem_cons_of_mem _ hname)
  next =>
    split at h
    next =>
      cases h
      cases hb
    next hlookup =>
      obtain ⟨c, hc, hkind⟩ := Option.bind_eq_some_iff.mp hlookup
      have hname := List.mem_map_of_mem (f := Prod.fst) (mem_of_lookup_eq_some hkind)
      rw [hc]
      exact List.mem_append_right _ hname
    next =>
      -- a doc comment is no method, and neither is what tells how a module is loaded
      split at h
      next =>
        cases hdoc : classDoc? cls <;> rw [hdoc] at h <;> cases h <;> cases hb
      next =>
        split at h
        · cases h
          cases hb
        · cases h

end Builtin

/-! ## Attributes and linearizations of built tables -/

namespace ClassTable

variable {t : ClassTable} {c : ClassRef} {n : Text} {b : Binding}

theorem IsBuilt.isDistinct_attributes (h : t.IsBuilt) (c : ClassRef) :
    (t.attributes c).IsDistinct := by
  cases c with
  | builtin cls => exact Builtin.isDistinct_layer cls
  | declared k =>
      cases hmade : t.declared? k with
      | none =>
          rw [attributes, hmade]
          exact Layer.isDistinct_nil
      | some made =>
          rw [attributes, hmade]
          exact h.isDistinct_own hmade

/-- The methods that a class has itself are among its attributes. -/
theorem IsBuilt.own?_eq_some_iff (h : t.IsBuilt) {x : Execution} {m : MethodAttribute}
    (hb : x.methodAttribute? b = some m) : t.own? n c = some b ↔ (n, b) ∈ t.attributes c := by
  cases c with
  | declared k =>
      cases hmade : t.declared? k with
      | none => simp [own?, attributes, hmade]
      | some made =>
          rw [own?, attributes, hmade]
          exact lookup_eq_some_iff_mem (h.isDistinct_own hmade)
  | builtin cls =>
      rw [own?_builtin, attributes, Builtin.layer, List.mem_filterMap]
      constructor
      · intro hown
        exact ⟨n, Builtin.mem_attributeNames_of_method hown hb, by rw [hown]; rfl⟩
      · rintro ⟨n', -, hmember⟩
        obtain ⟨b', hown, heq⟩ := Option.map_eq_some_iff.mp hmember
        obtain ⟨rfl, rfl⟩ := Prod.mk.inj heq
        exact hown

end ClassTable

/-! ## Methods in order -/

/-- The names of the methods of a class, each beside whether it is one of its own. -/
theorem SourceClass.map_methods (c : SourceClass) :
    c.methods.map (fun m => (m.isOwn, m.name)) = c.foundMethods.map fun m => (m.1, m.2.1) := by
  rw [methods, List.map_map]
  rfl

theorem SourceClass.map_name_methods (c : SourceClass) :
    c.methods.map Method.name = c.foundMethods.map fun m => m.2.1 := by
  rw [methods, List.map_map]
  rfl

namespace Execution

variable {x : Execution} {c : ClassRef} {n : Text}

/-- The methods that a class adds to those of the classes before it: the methods among its
attributes, in their order, but for those whose names stand for a method in a class before it. -/
def newMethods (x : Execution) (before : List ClassRef) (c : ClassRef) :
    List (Text × MethodAttribute) :=
  (x.methodsIn (x.table.attributes c)).filter fun m =>
    !before.any fun k => (x.method? m.1 k).isSome

theorem methodsOf_layerOf (x : Execution) (c : ClassRef) :
    SourceClass.methodsOf (x.layerOf c) = x.methodsIn (x.table.attributes c) := rfl

theorem mem_methodsIn_attributes (h : x.table.IsBuilt) {m : MethodAttribute} :
    (n, m) ∈ x.methodsIn (x.table.attributes c) ↔ x.method? n c = some m := by
  simp only [methodsIn, SourceClass.methodsOf, List.filterMap_map, List.mem_filterMap,
    Function.comp_apply, Option.map_eq_some_iff, method?, Option.bind_eq_some_iff]
  constructor
  · rintro ⟨⟨n', b⟩, hb, m', hm, heq⟩
    obtain ⟨rfl, rfl⟩ := Prod.mk.inj heq
    exact ⟨b, (h.own?_eq_some_iff hm).mpr hb, hm⟩
  · rintro ⟨b, hb, hm⟩
    exact ⟨(n, b), (h.own?_eq_some_iff hm).mp hb, m, hm, rfl⟩

/-- The names of the methods that a class has itself. -/
theorem mem_names_methodsIn (h : x.table.IsBuilt) :
    n ∈ (x.methodsIn (x.table.attributes c)).map Prod.fst
      ↔ (x.method? n c).isSome = true := by
  constructor
  · intro hn
    obtain ⟨⟨n', m⟩, hm, rfl⟩ := List.mem_map.mp hn
    exact Option.isSome_iff_exists.mpr ⟨m, (mem_methodsIn_attributes h).mp hm⟩
  · intro hn
    obtain ⟨m, hm⟩ := Option.isSome_iff_exists.mp hn
    exact List.mem_map.mpr ⟨(n, m), (mem_methodsIn_attributes h).mpr hm, rfl⟩

theorem nodup_names_methodsIn {l : Layer} (h : l.IsDistinct) :
    ((x.methodsIn l).map Prod.fst).Nodup := by
  have hnames : (x.methodsIn l).map Prod.fst
      = (l.filter fun a => (x.methodAttribute? a.2).isSome).map Prod.fst := by
    unfold methodsIn SourceClass.methodsOf
    rw [List.filterMap_map, List.map_filterMap, ← List.filterMap_eq_filter, List.map_filterMap]
    refine List.filterMap_congr fun a _ => ?_
    cases hmethod : x.methodAttribute? a.2 <;> simp [Option.guard, hmethod]
  rw [hnames]
  exact Layer.isDistinct_of_sublist List.filter_sublist h

/-- The names that a class adds are those of its methods that no class before it has. -/
theorem mem_names_newMethods (h : x.table.IsBuilt) {before : List ClassRef} :
    n ∈ (x.newMethods before c).map Prod.fst ↔ (x.method? n c).isSome = true
      ∧ ¬ ∃ k ∈ before, (x.method? n k).isSome = true := by
  rw [← mem_names_methodsIn h, newMethods, List.mem_map, List.mem_map]
  simp only [List.mem_filter, Bool.not_eq_true', ← Bool.not_eq_true, List.any_eq_true]
  constructor
  · rintro ⟨m, ⟨hm, hbefore⟩, rfl⟩
    exact ⟨⟨m, hm, rfl⟩, hbefore⟩
  · rintro ⟨⟨m, hm, rfl⟩, hbefore⟩
    exact ⟨m, ⟨hm, hbefore⟩, rfl⟩

/-- **Each class adds its new methods** to those of the classes before it, if these are seen. -/
theorem firstMethods_map_layerOf (h : x.table.IsBuilt) (isOwn : ClassRef → Bool)
    {seen : List Text} {before : List ClassRef}
    (hseen : ∀ n, n ∈ seen ↔ ∃ k ∈ before, (x.method? n k).isSome = true)
    (cs : List ClassRef) :
    SourceClass.firstMethods seen (cs.map fun k => (isOwn k, x.layerOf k))
      = (cs.zipIdx before.length).flatMap fun p =>
          (x.newMethods ((before ++ cs).take p.2) p.1).map fun m => (isOwn p.1, m) := by
  induction cs generalizing seen before with
  | nil => rfl
  | cons c cs ih =>
      have hnew : (SourceClass.methodsOf (x.layerOf c)).filter (fun m => !seen.contains m.1)
          = x.newMethods before c := by
        rw [methodsOf_layerOf, newMethods]
        refine List.filter_congr fun m _ => ?_
        rw [Bool.not_inj_iff, Bool.eq_iff_iff, List.contains_iff_mem, hseen, List.any_eq_true]
      have hseen' : ∀ n, n ∈ seen ++ (x.newMethods before c).map Prod.fst
          ↔ ∃ k ∈ before ++ [c], (x.method? n k).isSome = true := by
        intro n
        simp only [List.mem_append, List.mem_singleton, or_and_right, exists_or, exists_eq_left,
          hseen, mem_names_newMethods h]
        by_cases hbefore : ∃ k ∈ before, (x.method? n k).isSome = true <;> simp [hbefore]
      rw [List.map_cons, SourceClass.firstMethods, List.zipIdx_cons, List.flatMap_cons]
      simp only [hnew]
      have hrest := ih hseen'
      rw [List.length_append, List.length_singleton, List.append_assoc, List.singleton_append]
        at hrest
      rw [hrest, List.take_left]

/-- No name that is seen comes again, and no name comes twice. -/
theorem nodup_firstMethods (h : x.table.IsBuilt) (isOwn : ClassRef → Bool) (seen : List Text)
    (cs : List ClassRef) :
    ((SourceClass.firstMethods seen (cs.map fun k => (isOwn k, x.layerOf k))).map
        fun m => m.2.1).Nodup
      ∧ ∀ m ∈ SourceClass.firstMethods seen (cs.map fun k => (isOwn k, x.layerOf k)),
        m.2.1 ∉ seen := by
  induction cs generalizing seen with
  | nil => exact ⟨List.nodup_nil, fun _ hm => nomatch hm⟩
  | cons c cs ih =>
      rw [List.map_cons, SourceClass.firstMethods]
      generalize hnew : (SourceClass.methodsOf (x.layerOf c)).filter
        (fun m => !seen.contains m.1) = new
      obtain ⟨hrest, hseen⟩ := ih (seen ++ new.map Prod.fst)
      have hnodup : (new.map Prod.fst).Nodup := by
        rw [← hnew]
        exact (nodup_names_methodsIn (h.isDistinct_attributes c)).sublist
          (List.filter_sublist.map Prod.fst)
      rw [List.map_append, List.map_map]
      refine ⟨List.nodup_append.mpr ⟨hnodup, hrest, ?_⟩, fun m hm => ?_⟩
      · rintro n hn n' hn' rfl
        obtain ⟨m, hm, rfl⟩ := List.mem_map.mp hn'
        exact hseen m hm (List.mem_append_right _ hn)
      · rcases List.mem_append.mp hm with hm | hm
        · obtain ⟨a, ha, rfl⟩ := List.mem_map.mp hm
          rw [← hnew, List.mem_filter] at ha
          simpa using ha.2
        · exact fun hn => hseen m hm (List.mem_append_left _ hn)

/-! ## Described methods -/

/-- **The methods of a class** are those that it adds and those that its ancestors add. -/
theorem methods_eq (h : x.table.IsBuilt) (c : ClassRef) :
    (x.sourceClass c).methods
      = (x.table.lineage c).zipIdx.flatMap fun p =>
          (x.newMethods ((x.table.lineage c).take p.2) p.1).map fun m =>
            SourceClass.method (p.1 == c) m.1 m.2 := by
  have hnone : ∀ n, n ∈ ([] : List Text) ↔ ∃ k ∈ ([] : List ClassRef),
      (x.method? n k).isSome = true := by simp
  have hfound : (x.sourceClass c).foundMethods = _ :=
    firstMethods_map_layerOf h (· == c) hnone (x.table.lineage c)
  rw [SourceClass.methods, hfound, List.map_flatMap]
  simp only [List.map_map, List.nil_append, List.length_nil]
  rfl

/-- No method of a class has the name of another one. -/
theorem nodup_names_methods (h : x.table.IsBuilt) (c : ClassRef) :
    ((x.sourceClass c).methods.map Method.name).Nodup := by
  rw [SourceClass.map_name_methods]
  exact (nodup_firstMethods h (· == c) [] (x.table.lineage c)).1

end Execution

namespace Execution

variable {x : Execution} {c : ClassRef}

/-- The methods of a class that stands first come before the inherited ones. -/
theorem methods_eq_own_append (h : x.table.StandsFirst c) : (x.sourceClass c).methods
    = (x.sourceClass c).methods.filter Method.isOwn
      ++ (x.sourceClass c).methods.filter fun m => !m.isOwn := by
  obtain ⟨inherited, hfound⟩ := exists_inherited_of_standsFirst h
  rw [SourceClass.methods, hfound]
  simp [List.filter_map, Function.comp_def, SourceClass.method]

end Execution

/-! ## A class with one ancestor -/

namespace Drawing

def shapeName : Function :=
  { name := "name", qualifiedName := "Shape.name", doc := some "@assert () == 'shape'" }
def shapeArea : Function := { name := "area", qualifiedName := "Shape.area" }
def squareSide : Function :=
  { name := "side", qualifiedName := "Square.side", doc := some "@assert () == 1" }
def squareArea : Function := { name := "area", qualifiedName := "Square.area" }

/-- A class with two methods. -/
def shape : ClassDraft where
  name := "Shape"
  bases := []
  names := [("__module__", .text "drawing"), ("__doc__", .text "A shape."),
    ("name", .function shapeName), ("area", .function shapeArea)]

/-- A class derived from it, with two methods. The name of one of the inherited methods stands for a
text in this class. -/
def square : ClassDraft where
  name := "Square"
  bases := [.declared 0]
  names := [("__module__", .text "drawing"), ("__doc__", .text "A square."),
    ("side", .function squareSide), ("name", .text "square"), ("area", .function squareArea)]

/-- The two classes. -/
def withShape : ClassTable := ({} : ClassTable).withBaseless shape
def withSquare : ClassTable :=
  withShape.withPlain square (.declared 0) [.declared 1, .declared 0, .builtin Builtin.object]

/-- A program with both of them. -/
def program : Execution := { table := withSquare, callLimit := 1 }

theorem shape_declared : ({} : ClassTable).declare shape = .ok (withShape, .declared 0) :=
  ClassTable.declare_of_noBase rfl rfl rfl rfl rfl

theorem square_declared : withShape.declare square = .ok (withSquare, .declared 1) :=
  ClassTable.declare_of_plain rfl rfl (ClassTable.orderOf_single rfl rfl _ _) rfl rfl rfl

theorem program_isBuilt : program.table.IsBuilt :=
  (ClassTable.isBuilt_empty.declare (by decide) shape_declared).declare (by decide) square_declared

theorem shape_isMade : program.table.IsMade shape (.declared 0) :=
  ⟨shape_declared, ClassTable.classes_prefix_withPlain⟩

theorem square_isMade : program.table.IsMade square (.declared 1) :=
  ⟨square_declared, List.prefix_refl _⟩

theorem kept_shape : ClassTable.kept shape.names = shape.names := rfl
theorem kept_square : ClassTable.kept square.names = square.names := rfl

/-- Both classes have only functions and values. -/
theorem names_shape_plain : ∀ a ∈ shape.names, a.2.IsPlain := by
  -- `simp` would make an equation of the definition, which is checked letter by letter
  delta shape
  simp [Binding.text, Binding.IsPlain]

theorem names_square_plain : ∀ a ∈ square.names, a.2.IsPlain := by
  delta square
  simp [Binding.text, Binding.IsPlain]

theorem lineage_square : program.table.lineage (.declared 1) = [.declared 1, .declared 0] := rfl

/-- The methods of the two classes. -/
theorem methodsOf_shape : SourceClass.methodsOf (program.layerOf (.declared 0))
    = program.methodsIn shape.names := by
  rw [Execution.methodsOf_layerOf_of_isMade shape_isMade fun _ => rfl, kept_shape]

theorem methodsOf_square : SourceClass.methodsOf (program.layerOf (.declared 1))
    = program.methodsIn square.names := by
  rw [Execution.methodsOf_layerOf_of_isMade square_isMade fun _ => rfl, kept_square]

theorem layers_square : (program.sourceClass (.declared 1)).layers
    = [(true, program.layerOf (.declared 1)), (false, program.layerOf (.declared 0))] := rfl

theorem square_described :
    ∃ i, ((program.sourceClass (.declared 1)).describe? none).result = .ok i := by
  have hdoc : program.table.own? Builtin.docName (.declared 1) = some (.text "A square.") :=
    square_isMade.own?_of_kept (by decide) rfl
  have hmodule : program.table.module (.declared 1) = .text "drawing" := by
    rw [square_isMade.module_eq, square_isMade.own?_of_kept (by decide) rfl]
    rfl
  refine Execution.exists_describe_of_plain Nat.one_ne_zero hdoc hmodule ?_
  rw [layers_square, List.forall_mem_cons, List.forall_mem_singleton]
  dsimp only
  exact ⟨⟨square.names, methodsOf_square, names_square_plain⟩,
    ⟨shape.names, methodsOf_shape, names_shape_plain⟩⟩

/-- The class is described by its own methods, and then by one that it inherits. -/
theorem methods_square {i : ClassInfo}
    (hi : ((program.sourceClass (.declared 1)).describe? none).result = .ok i) :
    i.methods.map (fun m => (m.isOwn, m.name))
      = [(true, "side".toList), (true, "area".toList), (false, "name".toList)] := by
  obtain ⟨-, -, -, rfl⟩ := SourceClass.describe?_eq_ok_iff.mp hi
  have hsquare : (SourceClass.methodsOf (program.layerOf (.declared 1))).map Prod.fst
      = ["side".toList, "area".toList] := by
    rw [methodsOf_square]
    rfl
  have hshape : (SourceClass.methodsOf (program.layerOf (.declared 0))).map Prod.fst
      = ["name".toList, "area".toList] := by
    rw [methodsOf_shape]
    rfl
  rw [SourceClass.methods_describe, SourceClass.map_methods, SourceClass.foundMethods,
    layers_square, SourceClass.map_firstMethods_pair, hsquare, hshape]
  decide +kernel

theorem names_square {i : ClassInfo}
    (hi : ((program.sourceClass (.declared 1)).describe? none).result = .ok i) :
    i.methods.map Method.name = ["side".toList, "area".toList, "name".toList] := by
  have hnames := congrArg (List.map Prod.snd) (methods_square hi)
  rw [List.map_map] at hnames
  exact hnames

/-- A class of classes that wants the ancestor of its classes to come first. -/
def basesFirst : ClassDraft where
  name := "BasesFirst"
  bases := [.builtin Builtin.metaclass]
  names := [("__module__", .text "drawing"), (Execution.orderName, .function
    { name := "<lambda>", qualifiedName := "BasesFirst.<lambda>"
      effect := .lists "c" ["Shape", "c", "object"] })]

def tileSide : Function := { name := "side", qualifiedName := "Tile.side" }

/-- A class that it makes. -/
def tile : ClassDraft where
  name := "Tile"
  bases := [.declared 0]
  names := [("__module__", .text "drawing"), ("__doc__", .text "A tile."),
    ("side", .function tileSide)]
  maker? := some (.declared 1)
  order? := some [.cls (.declared 0), .cls (.declared 2), .cls (.builtin Builtin.object)]

def withBasesFirst : ClassTable := withShape.withPlain basesFirst (.builtin Builtin.metaclass)
  [.declared 1, .builtin Builtin.metaclass, .builtin Builtin.object]
def withTile : ClassTable := withBasesFirst.withPlain tile (.declared 0)
  [.declared 0, .declared 2, .builtin Builtin.object]

/-- A program with the classes. -/
def tiling : Execution := { table := withTile, callLimit := 1 }

theorem checkBase_metaclass : ClassTable.checkBase (.builtin Builtin.metaclass) = .ok () := by
  have hfinal : Builtin.finalClasses.contains Builtin.metaclass = false := by
    unfold Builtin.finalClasses
    rw [String.toList_ofList]
    decide
  exact ClassTable.checkBase_builtin hfinal

theorem basesFirst_declared : withShape.declare basesFirst = .ok (withBasesFirst, .declared 1) :=
  ClassTable.declare_of_plain rfl checkBase_metaclass
    (ClassTable.orderOf_single rfl ClassTable.linearization_metaclass _ _) rfl rfl rfl

/-- The objects of the class of shapes have the form of all objects, or one of their own. -/
theorem layout_shape : withBasesFirst.layout (.declared 0) = .builtin Builtin.object
    ∨ withBasesFirst.layout (.declared 0) = .declared 0 := by
  have hmade : withBasesFirst.declared? 0 = some (({} : ClassTable).baseless shape) := rfl
  have hlayout : withBasesFirst.layout (.declared 0) = (({} : ClassTable).baseless shape).layout := by
    rw [ClassTable.layout, hmade]
    rfl
  rw [hlayout]
  unfold ClassTable.baseless ClassTable.plainClass
  dsimp only
  split
  · exact Or.inl ClassTable.layout_object
  · exact Or.inr rfl

theorem tile_declared : withBasesFirst.declare tile = .ok (withTile, .declared 2) := by
  have hshape : withBasesFirst.isSubclass (withBasesFirst.layout (.declared 0))
      (withBasesFirst.layout (.declared 0)) = true := by
    rcases layout_shape with h | h <;> rw [h] <;> decide
  have hobject : withBasesFirst.isSubclass (withBasesFirst.layout (.declared 0))
      (withBasesFirst.layout (.builtin Builtin.object)) = true := by
    rw [ClassTable.layout_object]
    rcases layout_shape with h | h <;> rw [h] <;> decide
  refine ClassTable.declare_of_plain rfl rfl ?_ rfl rfl rfl
  show withBasesFirst.checkOrder (.declared 2) (withBasesFirst.layout (.declared 0))
    [.cls (.declared 0), .cls (.declared 2), .cls (.builtin Builtin.object)] = _
  simp only [ClassTable.checkOrder, hshape, hobject, Bool.or_true, if_true, beq_self_eq_true,
    Bool.true_or]
  rfl

theorem tiling_isBuilt : tiling.table.IsBuilt :=
  ((ClassTable.isBuilt_empty.declare (by decide) shape_declared).declare (by decide)
    basesFirst_declared).declare (by decide) tile_declared

theorem tile_isMade : tiling.table.IsMade tile (.declared 2) := ⟨tile_declared, List.prefix_refl _⟩

theorem basesFirst_isMade : tiling.table.IsMade basesFirst (.declared 1) :=
  ⟨basesFirst_declared, ClassTable.classes_prefix_withPlain⟩

theorem shape_isMade_tiling : tiling.table.IsMade shape (.declared 0) :=
  ⟨shape_declared,
    ClassTable.classes_prefix_withPlain.trans ClassTable.classes_prefix_withPlain⟩

theorem layers_tile : (tiling.sourceClass (.declared 2)).layers
    = [(false, tiling.layerOf (.declared 0)), (true, tiling.layerOf (.declared 2))] := rfl

theorem kept_tile : ClassTable.kept tile.names = tile.names := rfl

theorem methodsOf_tiling_shape : SourceClass.methodsOf (tiling.layerOf (.declared 0))
    = tiling.methodsIn shape.names := by
  rw [Execution.methodsOf_layerOf_of_isMade shape_isMade_tiling fun _ => rfl, kept_shape]

theorem methodsOf_tile : SourceClass.methodsOf (tiling.layerOf (.declared 2))
    = tiling.methodsIn tile.names := by
  rw [Execution.methodsOf_layerOf_of_isMade tile_isMade fun _ => rfl, kept_tile]

theorem names_tile_plain : ∀ a ∈ tile.names, a.2.IsPlain := by
  delta tile
  simp [Binding.text, Binding.IsPlain]

theorem tile_described :
    ∃ i, ((tiling.sourceClass (.declared 2)).describe? none).result = .ok i := by
  have hdoc : tiling.table.own? Builtin.docName (.declared 2) = some (.text "A tile.") :=
    tile_isMade.own?_of_kept (by decide) rfl
  have hmodule : tiling.table.module (.declared 2) = .text "drawing" := by
    rw [tile_isMade.module_eq, tile_isMade.own?_of_kept (by decide) rfl]
    rfl
  refine Execution.exists_describe_of_plain Nat.one_ne_zero hdoc hmodule ?_
  rw [layers_tile, List.forall_mem_cons, List.forall_mem_singleton]
  dsimp only
  exact ⟨⟨shape.names, methodsOf_tiling_shape, names_shape_plain⟩,
    ⟨tile.names, methodsOf_tile, names_tile_plain⟩⟩

end Drawing

end TestSkeleton
