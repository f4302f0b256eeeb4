import TestSkeleton.Text.Basic

set_option autoImplicit false

/-! # Classes under test

What is known about a class and its methods, in the order in which they are declared. Tests are
generated for the methods that are eligible.
-/

namespace TestSkeleton

/-- A method of the class under test. -/
structure Method where
  name : Text
  isStatic : Bool := false
  isPublic : Bool := true
  isAbstract : Bool := false
  isConstructor : Bool := false
  /-- Whether the class declares the method itself and does not inherit it. -/
  isOwn : Bool := true
  doc : Text := []
deriving DecidableEq, Repr

/-- Whether tests are generated for the method. -/
def Method.isEligible (m : Method) : Bool :=
  m.isPublic && !m.isConstructor && !m.isAbstract && m.isOwn

/-- A class under test. -/
structure ClassInfo where
  name : Text
  /-- The module that the class is imported from, if it is known. -/
  module? : Option Text := none
  doc : Text := []
  methods : List Method := []
deriving DecidableEq, Repr

namespace ClassInfo

/-- The methods that tests are generated for. -/
def eligible (c : ClassInfo) : List Method := c.methods.filter Method.isEligible

/-- The first method of a name. -/
def method? (c : ClassInfo) (name : Text) : Option Method := c.methods.find? fun m => m.name == name

end ClassInfo

end TestSkeleton
