import TestSkeleton.Assertion.Kind

set_option autoImplicit false

/-! # Templates of generated code

Generated code is rendered from templates. A test method has one of three shapes, depending on what
its kind of assertion looks at, each in a variant for methods that are called on the class itself.
Two more templates render methods without assertions and the class around the methods.
-/

namespace TestSkeleton

/-- The templates that generated code is rendered from. -/
inductive TemplateKind where
  /-- Compares an expected value with the result of a call. -/
  | generic
  | genericStatic
  /-- Looks at the result of a call alone. -/
  | boolean
  | booleanStatic
  /-- Expects a call to raise an exception. -/
  | exception
  | exceptionStatic
  /-- Stands in for a method without assertions. -/
  | incomplete
  /-- The test class around its methods. -/
  | testClass
deriving DecidableEq, Repr

namespace TemplateKind

/-- The identifier under which a template is looked up. -/
def name : TemplateKind → Text
  | generic => "Generic"
  | genericStatic => "GenericStatic"
  | boolean => "Boolean"
  | booleanStatic => "BooleanStatic"
  | exception => "Exception"
  | exceptionStatic => "ExceptionStatic"
  | incomplete => "Incomplete"
  | testClass => "TestClass"

/-- The variant of a template for methods that are called on the class. -/
def static : TemplateKind → TemplateKind
  | generic => genericStatic
  | boolean => booleanStatic
  | exception => exceptionStatic
  | t => t

/-- The template for a kind of assertion on a method of an instance. -/
def ofKind (k : AssertionKind) : TemplateKind :=
  if k = .exception then exception else if k.isUnary then boolean else generic

/-- The template for a kind of assertion. -/
def select (k : AssertionKind) (isStatic : Bool) : TemplateKind :=
  if isStatic then (ofKind k).static else ofKind k

end TemplateKind

end TestSkeleton
