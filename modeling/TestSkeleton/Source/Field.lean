import TestSkeleton.Source.NewClass

set_option autoImplicit false

/-! # Computed attributes

The attributes that built-in classes compute or store for their objects: of classes, functions,
methods and properties, as far as these tell something that a module can use. Of all others only a
class is known.
-/

namespace TestSkeleton

namespace ClassTable

/-- The base that the objects of a class are made like. -/
def base? (t : ClassTable) : ClassRef → Option ClassRef
  | .declared n => (t.declared? n).map (·.base)
  | .builtin name => ((Builtin.class? name).bind fun c => c.bases.head?).map .builtin

/-- Whether a class keeps count of what is abstract in it. -/
def countsAbstract (t : ClassTable) (c : ClassRef) : Bool :=
  t.isSubclass (t.metaclass c) (.builtin Builtin.abstractMetaclass)

/-- An attribute of a class as it is taken from the class `c`: a function that belongs to the class
comes without its wrapping. -/
def fromClass (c : ClassRef) : Binding → Binding
  | .staticMethod _ b => b
  | .classMethod _ b => .boundMethod b (.cls c)
  | .descriptor .classMethod owner name => .builtinMethod .classMethod owner name (.cls c)
  | b => b

/-- The doc comment of a class. -/
def docOfClass (t : ClassTable) (c : ClassRef) : Binding :=
  match c with
  | .builtin name => (Builtin.classDoc? name).elim .nothing .text
  | c => (t.own? Builtin.docName c).elim .nothing (fromClass c)

/-- An attribute that is computed for a class. -/
def classField (t : ClassTable) (c : ClassRef) (name : Text) : Attempt Binding :=
  match name.asString with
  | "__name__" => .ok (.text (t.className c))
  | "__qualname__" => .ok (.text (t.qualifiedName c))
  | "__module__" => .ok (t.module c)
  | "__doc__" => .ok (t.docOfClass c)
  | "__base__" => .ok ((t.base? c).elim .nothing .cls)
  | "__bases__" | "__mro__" => .ok (.objectOf "tuple")
  | "__dict__" => .ok (.objectOf "mappingproxy")
  | "__text_signature__" => .ok .nothing
  | "__abstractmethods__" =>
    if t.countsAbstract c then .ok (.objectOf "frozenset")
    else
      match c, t.own? name c with
      | .declared _, some names => .ok names
      | _, _ => .error .noAbstractNames
  | "__annotations__" =>
    match c with
    | .declared _ => .ok ((t.own? name c).elim (.objectOf "dict") (fromClass c))
    | .builtin _ => .error (.noClassAttribute (t.className c) name)
  | _ => .ok (.objectOf "int")

/-- An attribute that is computed for a function. -/
def functionField (f : Function) (name : Text) : Binding :=
  match name.asString with
  | "__name__" => .text f.name
  | "__qualname__" => .text f.qualifiedName
  | "__module__" => .text f.module
  | "__doc__" => f.doc.elim .nothing .text
  | "__code__" => .objectOf "code"
  | "__annotations__" | "__builtins__" | "__dict__" | "__globals__" => .objectOf "dict"
  | _ => .nothing

/-- The doc comment of what a property or a method is made of. -/
def docOf (t : ClassTable) : Binding → Binding
  | .function f => functionField f Builtin.docName
  | .staticMethod _ b | .classMethod _ b | .property _ b .. | .boundMethod b _ => docOf t b
  | .cls c => t.docOfClass c
  | .builtinFunction name => (Builtin.functionDoc? name).elim .nothing .text
  | .descriptor kind owner name | .builtinMethod kind owner name _ =>
    (Builtin.methodDoc? kind owner name).elim .nothing .text
  | b =>
    match t.find? (t.classOf b) Builtin.docName with
    | some (_, doc) => doc
    | none => .nothing

/-- An attribute that is computed for what a built-in class defines under a name. -/
def builtinField (t : ClassTable) (b : Binding) (owner : Option Text) (own name : Text) :
    Binding :=
  match name.asString with
  | "__name__" => .text own
  | "__qualname__" => .text ((owner.elim [] (· ++ ['.'])) ++ own)
  | "__doc__" => t.docOf b
  | "__objclass__" => owner.elim .nothing fun c => .cls (.builtin c)
  | "__module__" => if owner.isNone then .text "builtins" else .nothing
  | "__self__" =>
    match b with
    | .builtinMethod _ _ _ self => self
    | _ => .module "builtins"
  | "__text_signature__" =>
    match b with
    | .descriptor .operator .. | .builtinMethod .operator .. => .objectOf "str"
    | _ => .nothing
  | _ => .nothing

/-- The real part of a number. -/
def realPart : Value → Binding
  | .bool b => .value (.int (if b then 1 else 0))
  | v => .value v

/-- The attribute under a name that a class computes or stores for an object. -/
def field (t : ClassTable) (name : Text) (self : Binding) : Attempt Binding :=
  if name == "__class__".toList then .ok (.cls (t.classOf self))
  else
    match self with
    | .cls c => t.classField c name
    | .function f => .ok (functionField f name)
    | .staticMethod _ b | .classMethod _ b =>
      .ok (match name.asString with
        | "__func__" | "__wrapped__" => b
        | "__isabstractmethod__" => .value (.bool (isAbstract self))
        | _ => .objectOf "dict")
    | .property _ getter setter deleter =>
      .ok (match name.asString with
        | "fget" => getter
        | "fset" => setter
        | "fdel" => deleter
        | "__doc__" => t.docOf getter
        | "__isabstractmethod__" => .value (.bool (isAbstract self))
        | _ => .objectOf "dict")
    | .boundMethod b s =>
      .ok (match name.asString with
        | "__func__" => b
        | "__self__" => s
        | _ => t.docOf b)
    | .builtinFunction own => .ok (t.builtinField self none own name)
    | .descriptor _ owner own => .ok (t.builtinField self (some owner) own name)
    | .builtinMethod _ owner own _ => .ok (t.builtinField self (some owner) own name)
    | .value v =>
      .ok (match name.asString with
        | "real" | "numerator" => realPart v
        | _ => .objectOf (if v matches .bool _ then "int" else v.typeName))
    | .module _ => .ok (.objectOf "dict")
    | .object .. => .ok (.objectOf "object")

end ClassTable

end TestSkeleton
