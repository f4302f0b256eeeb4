import TestSkeleton.ClassInfo.Basic
import TestSkeleton.Source.Fault
import TestSkeleton.Text.Indent

set_option autoImplicit false

/-! # Classes of modules

A class as testing sees it: layers of attributes, its own first and then those of its ancestors in
the order of its linearization. `SourceClass.describe` is what is known of it for testing: the
methods among the attributes, each name once.
-/

namespace TestSkeleton

/-- What is known of an attribute that is a method, says to be one, or fails when it is asked. To ask
a method is to carry out code, if what it is made of is no function but an object of another class:
the code can write, and it can fail. -/
structure MethodAttribute where
  isStatic : Bool
  /-- Whether subclasses have to override the method. -/
  isAbstract : Bool
  /-- The doc comment; nothing if what the method has as its doc comment is no text. -/
  doc : Option Text
  /-- What is written when the method is asked. -/
  events : List Event := []
  /-- Why the method does not tell what is asked. -/
  fault? : Option Fault := none
deriving DecidableEq, Repr

/-- The method can be described: it tells what is asked, and its doc comment is a text. -/
def MethodAttribute.IsDescribable (m : MethodAttribute) : Prop :=
  m.fault? = none ∧ m.doc.isSome = true

/-- The attributes of one class, each name once, in the order of their first definitions; those that
are no methods count for nothing. -/
abbrev MethodLayer := List (Text × Option MethodAttribute)

/-- A class and the attributes that it has and inherits. -/
structure SourceClass where
  name : Text
  /-- The name behind the names of the classes around it. -/
  qualifiedName : Text
  /-- The module that the class says it is defined in; nothing if what it says is no plain value. -/
  module? : Option Value
  /-- The doc comment; nothing if what the class has as its doc comment is no text. -/
  doc : Action (Option Text)
  /-- The layers of the class and of its ancestors, in their order, and whether a layer is that of the
  class itself. -/
  layers : List (Bool × MethodLayer)

namespace SourceClass

/-- The names of the methods that make instances. -/
def constructorNames : List Text := ["__init__", "__new__"]

/-- A method as it is described. -/
def method (isOwn : Bool) (name : Text) (m : MethodAttribute) : Method where
  name
  isStatic := m.isStatic
  isPublic := name.head? != some '_'
  isAbstract := m.isAbstract
  isConstructor := constructorNames.contains name
  isOwn
  doc := Text.dedent (m.doc.getD [])

/-- The methods of a layer with their names. -/
def methodsOf (l : MethodLayer) : List (Text × MethodAttribute) :=
  l.filterMap fun a => a.2.map fun m => (a.1, m)

/-- The methods of layers in order, each name once and none that is among `seen`. -/
def firstMethods : List Text → List (Bool × MethodLayer) → List (Bool × Text × MethodAttribute)
  | _, [] => []
  | seen, (isOwn, l) :: ls =>
    let ms := (methodsOf l).filter fun m => !seen.contains m.1
    ms.map (fun m => (isOwn, m)) ++ firstMethods (seen ++ ms.map Prod.fst) ls

/-- The methods that the class has itself or inherits. -/
def foundMethods (c : SourceClass) : List (Bool × Text × MethodAttribute) :=
  firstMethods [] c.layers

/-- All methods as they are described. -/
def methods (c : SourceClass) : List Method :=
  c.foundMethods.map fun m => method m.1 m.2.1 m.2.2

/-- The module that classes are not imported from. -/
def mainModule : Text := "__main__"

/-- The module to import the class from, if there is one: the one that defines it, but for the main
module. Nothing at all if what the class says is no text. -/
def importModule? (c : SourceClass) : Option (Option Text) :=
  match c.module? with
  | some .none => some none
  | some (.str m) => some (if m == mainModule then none else some m)
  | _ => none

/-- The doc comment as far as it is a text. -/
def docText (c : SourceClass) : Text :=
  match c.doc.result with
  | .ok (some doc) => doc
  | _ => []

/-- What is known of the class for testing. `module?` is the module to import it from, by default
the one that defines it. -/
def describe (c : SourceClass) (module? : Option Text) : ClassInfo where
  name := c.name
  module? := module?.orElse fun _ => c.importModule?.join
  doc := Text.dedent c.docText
  methods := c.methods

end SourceClass

end TestSkeleton
