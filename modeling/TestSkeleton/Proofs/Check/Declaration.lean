import TestSkeleton.Check.Comparison
import TestSkeleton.Proofs.Source.SingleBase

set_option autoImplicit false

/-! # Declaring classes without bases

A class without bases can be declared if none of its attributes is read for this
(`declareClass_of_noBase`), and operators find the attributes that it is declared with
(`special?_withClass`), as do the hashes of its objects (`ownHash?_withClass`).
-/

namespace TestSkeleton.Declarations

/-- The body of a class with these attributes and without bases. -/
def bodyOf (name : Text) (attributes : List (Text × Value)) : ClassDraft :=
  let names : Layer := attributes.map fun a => (a.1, binding a.2)
  { name, bases := [], names := names.bindMissing "__module__".toList (.text moduleName) }

/-- What is declared if such a class is added. -/
def withClass (d : Declarations) (name : Text) (attributes : List (Text × Value)) : Declarations :=
  { d with
    table := d.table.withBaseless (bodyOf name attributes)
    classes := (name, .declared d.table.classes.length) :: d.classes }

variable {d : Declarations} {name : Text} {attributes : List (Text × Value)}

theorem ancestors_withClass :
    ((d.withClass name attributes).table.linearization (.declared d.table.classes.length)).tail
      = [Builtin.object].map .builtin :=
  congrArg List.tail ClassTable.linearization_withPlain

/-- **A class without bases can be declared.** -/
theorem declareClass_of_noBase
    (hslots : (bodyOf name attributes).names.lookup "__slots__".toList = none)
    (hname : (bodyOf name attributes).names.lookup "__qualname__".toList = none)
    (hcell : (bodyOf name attributes).names.lookup "__classcell__".toList = none) :
    d.declareClass name [] attributes = .ok (d.withClass name attributes) := by
  have hdeclare : (d.table.declare (bodyOf name attributes)).mapError misuseOf
      = .ok ((d.withClass name attributes).table, .declared d.table.classes.length) := by
    rw [ClassTable.declare_of_noBase rfl rfl hslots (ClassTable.qualifiedNameOf_of_none hname) hcell]
    rfl
  unfold declareClass
  refine bind_eq_ok_iff.mpr ⟨_, hdeclare, ?_⟩
  dsimp only
  rw [ancestors_withClass]
  split
  next k b h =>
    -- the hook is the one that all classes have
    obtain ⟨builtin, hbuiltin⟩ := ClassTable.firstOwner?_builtin h
    cases hbuiltin
  next => rfl

/-- Operators find what the class keeps of its attributes. -/
theorem special?_withClass {operator : String} (h : operator.toList ∉ ClassTable.addedNames) :
    (d.withClass name attributes).special? (.declared d.table.classes.length) operator
      = (ClassTable.kept (bodyOf name attributes).names).lookup operator.toList :=
  ClassTable.declaredAttribute?_of_noBase rfl h

/-- The hash of an object comes from what its class keeps for that. -/
theorem ownHash?_withClass {object cls : Text} {base : Option PlainType} {b : Binding}
    (h : (ClassTable.kept (bodyOf name attributes).names).lookup "__hash__".toList = some b) :
    (d.withClass name attributes).ownHash?
      (.object object (.declared d.table.classes.length) cls base) = some b := by
  have hown := ClassTable.declaredAttribute?_withBaseless (t := d.table)
    (d := bodyOf name attributes) rfl "__hash__".toList
  rw [h, Option.some_or] at hown
  exact hown

end TestSkeleton.Declarations
