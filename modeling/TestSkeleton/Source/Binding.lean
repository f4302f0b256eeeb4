import TestSkeleton.Value.Basic

set_option autoImplicit false

/-! # What names stand for

The names of a module or of a class stand for functions, classes, values and for what is made of
these: methods, properties and objects. Of an object only its class counts.
-/

namespace TestSkeleton

/-- How a built-in class defines an attribute. -/
inductive AttributeKind where
  /-- A method that an operator or a built-in function calls. -/
  | operator
  | method
  | classMethod
  /-- A value that is computed for each object. -/
  | getter
  /-- A value that is stored in each object. -/
  | member
  /-- A function that belongs to the class and is not a method. -/
  | function
deriving DecidableEq, Repr

/-- What a function does that a module defines or uses. -/
inductive FunctionEffect where
  | nothing
  /-- Marks its argument as abstract and yields it. -/
  | marksAbstract
  /-- Marks what a method is made of as abstract. -/
  | wrapsAbstract
  | yieldsArgument
  /-- Yields a list of what these names stand for where the function is defined; one of them can be
  the name of its parameter, which stands for the argument. -/
  | lists (parameter : Text) (names : List Text)
deriving DecidableEq, Repr

/-- A function. -/
structure Function where
  name : Text
  /-- The name behind the names of the classes around it. -/
  qualifiedName : Text
  /-- The module that defines the function. -/
  module : Text := []
  doc : Option Text := none
  isAbstract : Bool := false
  effect : FunctionEffect := .nothing
deriving DecidableEq, Repr

/-- What a name stands for. -/
inductive Binding where
  | function (f : Function)
  /-- A method without an object, of a class of such methods. -/
  | staticMethod (c : ClassRef) (inner : Binding)
  /-- A method of the class itself, of a class of such methods. -/
  | classMethod (c : ClassRef) (inner : Binding)
  /-- A property, of a class of properties, with what reads, sets and deletes it. -/
  | property (c : ClassRef) (getter setter deleter : Binding)
  /-- A method that was taken from an object. -/
  | boundMethod (inner self : Binding)
  | cls (c : ClassRef)
  | value (v : Value)
  | module (name : Text)
  | builtinFunction (name : Text)
  /-- An attribute of a built-in class, as the class has it. -/
  | descriptor (kind : AttributeKind) (owner name : Text)
  /-- A method of a built-in class that was taken from an object. -/
  | builtinMethod (kind : AttributeKind) (owner name : Text) (self : Binding)
  /-- Another object of a class. It can be marked as abstract. -/
  | object (c : ClassRef) (isAbstract : Bool)

/-- Names and what they stand for, each name once, in the order of their first definitions. -/
abbrev Layer := List (Text × Binding)

namespace Layer

/-- The layer with a name bound; the position of an earlier binding is kept. -/
def bind (name : Text) (b : Binding) : Layer → Layer
  | [] => [(name, b)]
  | a :: as => if a.1 == name then (name, b) :: as else a :: bind name b as

/-- The layer with a name bound if it was not. -/
def bindMissing (name : Text) (b : Binding) (l : Layer) : Layer :=
  if (l.lookup name).isSome then l else l ++ [(name, b)]

end Layer

namespace Binding

/-- Nothing. -/
def nothing : Binding := .value .none

/-- A text. -/
def text (t : Text) : Binding := .value (.str t)

/-- An object of a built-in class. -/
def objectOf (name : Text) : Binding := .object (.builtin name) false

/-- Whether nothing is known of a thing but that there is one. -/
def isUnknown : Binding → Bool
  | object (.builtin name) _ => name == "object".toList
  | _ => false

/-- Whether what the name stands for counts as true. -/
def isTruthy : Binding → Bool
  | value v => v.isTruthy
  | _ => true

/-- The text that the name stands for. -/
def text? : Binding → Option Text
  | value v => v.text?
  | _ => none

end Binding

end TestSkeleton
