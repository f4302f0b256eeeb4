import TestSkeleton.Source.Call

set_option autoImplicit false

/-! # Attributes

The attributes of what names stand for. An attribute that the class of a thing computes comes first,
then one of the thing itself, and then any other one of its class. The attributes of a class itself
are those of its linearization, and then those of its own class.
-/

namespace TestSkeleton

namespace ClassTable

/-- The attributes that a method or a class method has from the function inside of it. -/
def copiedNames : List Text := 
  ["__module__", "__name__", "__qualname__", "__doc__", "__annotations__"]

/-- The failure of a thing without an attribute. -/
def missing (t : ClassTable) (b : Binding) (name : Text) : Fault :=
  match b with
  | .cls c => .noClassAttribute (t.className c) name
  | .module m => .noModuleAttribute m name
  | b => .noAttribute (t.typeName b) name

/-- An attribute that a thing has by its class or itself; `own` is the one that it has itself. -/
def plainAttribute (t : ClassTable) (fuel : Nat) (b : Binding) (name : Text)
    (own : Unit → Option Binding) : Action Binding :=
  let c := t.classOf b
  match t.find? c name with
  | some (_, raw) =>
    if t.isData raw then t.take (some b) c fuel raw
    else
      match own () with
      | some a => pure a
      | none => t.take (some b) c fuel raw
  | none =>
    match own () with
    | some a => pure a
    | none => .fail (t.missing b name)

/-- An attribute that a thing has, if its class does not declare how attributes are found, or those
that are missing. -/
def byClass (t : ClassTable) (fuel : Nat) (b : Binding) (name : Text)
    (own : Unit → Option Binding) : Action Binding :=
  let c := t.classOf b
  let asked (f : Binding) : Action Binding := do
    t.call fuel (← t.take (some b) c fuel f) [.text name]
  let found := match t.declaredAttribute? c "__getattribute__".toList with
    | some f => asked f
    | none => t.plainAttribute fuel b name own
  match found.result, t.declaredAttribute? c "__getattr__".toList with
  | .error e, some f => if e.isAboutAttribute then .after found.events (asked f) else found
  | _, _ => found

/-- An attribute of a class. -/
def ofClass (t : ClassTable) (fuel : Nat) (c : ClassRef) (name : Text) : Action Binding :=
  let above := t.metaclass c
  let fromAbove := t.find? above name
  match fromAbove.filter fun a => t.isData a.2, t.find? c name, fromAbove with
  | some (_, raw), _, _ => t.take (some (.cls c)) above fuel raw
  | none, some (_, raw), _ => t.take none c fuel raw
  | none, none, some (_, raw) => t.take (some (.cls c)) above fuel raw
  | none, none, none => .fail (t.missing (.cls c) name)

/-- The mark of a thing that is marked as abstract. -/
def markOf (b : Binding) (name : Text) : Option Binding :=
  if name == Builtin.abstractMark && isAbstract b then some (.value (.bool true)) else none

/-- An attribute of an object of another class. -/
def ofObject (t : ClassTable) (fuel : Nat) (b : Binding) (name : Text) : Action Binding :=
  if b.isUnknown then .fail .unknown else t.byClass fuel b name fun _ => markOf b name

/-- An attribute of what a name stands for; `members` are the names of each module. -/
def getAttribute (t : ClassTable) (members : Text → Option Layer) (fuel : Nat) (name : Text) :
    Binding → Action Binding
  | .cls c => t.ofClass fuel c name
  | .value (.type c _) => t.ofClass fuel c name
  | .boundMethod inner self =>
    let b := .boundMethod inner self
    match t.find? (t.classOf b) name with
    | some _ => t.byClass fuel b name fun _ => none
    | none => getAttribute t members fuel name inner
  | .staticMethod c inner =>
    t.byClass fuel (.staticMethod c inner) name fun _ =>
      if copiedNames.contains name then (getAttribute t members fuel name inner).result.toOption
      else none
  | .classMethod c inner =>
    t.byClass fuel (.classMethod c inner) name fun _ =>
      if copiedNames.contains name then (getAttribute t members fuel name inner).result.toOption
      else none
  | .function f =>
    t.byClass fuel (.function f) name fun _ => markOf (.function f) name
  | .object c isMarked => t.ofObject fuel (.object c isMarked) name
  | .property c getter setter deleter =>
    t.byClass fuel (.property c getter setter deleter) name fun _ =>
      if name == Builtin.docName && !(getter matches .value .none) then some (t.docOf getter)
      else none
  | .module m =>
    t.byClass fuel (.module m) name fun _ =>
      match members m with
      | some l => l.lookup name
      | none => some (.objectOf "object")
  | b => t.byClass fuel b name fun _ => none

end ClassTable

end TestSkeleton
