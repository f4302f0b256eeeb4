import TestSkeleton.Source.Builtin

set_option autoImplicit false

/-! # Tables of classes

The classes that a program declares, each known by its number. An attribute of a class is looked up
in the class itself and then in its ancestors, in the order of its linearization.
-/

namespace TestSkeleton

/-- A class that a program declares. -/
structure DeclaredClass where
  name : Text
  /-- The name behind the names of the classes around it. -/
  qualifiedName : Text
  own : Layer
  /-- The class itself and its ancestors, in the order in which they are looked at. The maker of the
  class can have a say in it. -/
  linearization : List ClassRef
  /-- The base that its objects are made like. -/
  base : ClassRef
  /-- The class that made it, of which it is an instance. -/
  maker : ClassRef := .builtin Builtin.metaclass
  /-- The class among itself and its ancestors that gives its objects their form. -/
  layout : ClassRef
  /-- Whether its objects can have attributes of their own. -/
  hasDictionary : Bool
  /-- Whether its objects can be referred to without being kept. -/
  isWeaklyReferable : Bool
  /-- The names of what is abstract in the class, if it keeps count. -/
  abstractNames : List Text := []

/-- The classes that a program declares. -/
structure ClassTable where
  classes : List DeclaredClass := []

namespace ClassTable

/-- The class with a number. -/
def declared? (t : ClassTable) (n : Nat) : Option DeclaredClass := t.classes[n]?

/-- The name of a class. -/
def className (t : ClassTable) : ClassRef → Text
  | .declared n => ((t.declared? n).map (·.name)).getD []
  | .builtin name => name

/-- The name of a class behind the names of the classes around it. -/
def qualifiedName (t : ClassTable) : ClassRef → Text
  | .declared n => ((t.declared? n).map (·.qualifiedName)).getD []
  | .builtin name => name

/-- A class and its ancestors. -/
def linearization (t : ClassTable) : ClassRef → List ClassRef
  | .declared n => ((t.declared? n).map (·.linearization)).getD []
  | .builtin name => (Builtin.linearization name).map .builtin

/-- A class and its ancestors, but for the class above all others. -/
def lineage (t : ClassTable) (c : ClassRef) : List ClassRef :=
  (t.linearization c).filter (· != .builtin Builtin.object)

/-- Whether a class is another one or derived from it. -/
def isSubclass (t : ClassTable) (c ancestor : ClassRef) : Bool :=
  (t.linearization c).contains ancestor

/-- Whether a class is a built-in one or derived from it. -/
def derivesFrom (t : ClassTable) (c : ClassRef) (name : Text) : Bool :=
  t.isSubclass c (.builtin name)

/-! ## Attributes -/

/-- An attribute that a class has of its own. -/
def own? (t : ClassTable) (name : Text) : ClassRef → Option Binding
  | .declared n => (t.declared? n).bind fun c => c.own.lookup name
  | .builtin c => Builtin.ownAttribute? c name

/-- The first of some classes that has an attribute, with the attribute. -/
def firstOwner? (t : ClassTable) (name : Text) : List ClassRef → Option (ClassRef × Binding)
  | [] => none
  | c :: cs =>
    match t.own? name c with
    | some b => some (c, b)
    | none => firstOwner? t name cs

/-- The class among a class and its ancestors that has an attribute, with the attribute. -/
def find? (t : ClassTable) (c : ClassRef) (name : Text) : Option (ClassRef × Binding) :=
  t.firstOwner? name (t.linearization c)

/-- An attribute of a class or of its ancestors that a program declares and that comes before all
built-in ones. -/
def declaredAttribute? (t : ClassTable) (c : ClassRef) (name : Text) : Option Binding :=
  match t.find? c name with
  | some (.declared _, b) => some b
  | _ => none

/-! ## Classes of things -/

/-- The class of a class: the one that made it. -/
def metaclass (t : ClassTable) : ClassRef → ClassRef
  | .declared n => ((t.declared? n).map (·.maker)).getD (.builtin Builtin.metaclass)
  | .builtin name =>
    .builtin (if Builtin.isSubclass name Builtin.abstractClass then Builtin.abstractMetaclass
      else Builtin.metaclass)

/-- The class of what a name stands for. -/
def classOf (t : ClassTable) : Binding → ClassRef
  | .function _ => .builtin "function"
  | .staticMethod c _ | .classMethod c _ | .property c .. | .object c _ => c
  | .boundMethod .. => .builtin "method"
  | .cls c => t.metaclass c
  | .value (.type c _) => t.metaclass c
  | .value v => v.classOf
  | .module _ => .builtin "module"
  | .builtinFunction _ => .builtin "builtin_function_or_method"
  | .descriptor kind .. => .builtin kind.className
  | .builtinMethod kind .. => .builtin kind.boundClassName

/-- The name of the class of what a name stands for. -/
def typeName (t : ClassTable) (b : Binding) : Text := t.className (t.classOf b)

/-- Whether what a name stands for is an object of a built-in class or of one derived from it. -/
def isInstance (t : ClassTable) (b : Binding) (name : Text) : Bool :=
  t.derivesFrom (t.classOf b) name

/-- The module that a class says it is defined in. -/
def module (t : ClassTable) : ClassRef → Binding
  | .declared n =>
    ((t.declared? n).bind fun c => c.own.lookup "__module__".toList).getD .nothing
  | .builtin name => .text (Builtin.moduleOf name)

/-- The title of a class in the text of values. -/
def title (t : ClassTable) (c : ClassRef) : Text :=
  match (t.module c).text? with
  | some m =>
    if m == "builtins".toList then t.className c else m ++ '.' :: t.qualifiedName c
  | none => t.className c

/-- Whether the objects of a class can have attributes of their own. -/
def hasDictionary (t : ClassTable) : ClassRef → Bool
  | .declared n => ((t.declared? n).map (·.hasDictionary)).getD false
  | .builtin name => Builtin.hasDictionary name

end ClassTable

end TestSkeleton
