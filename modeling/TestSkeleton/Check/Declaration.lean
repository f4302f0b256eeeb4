import TestSkeleton.Source.Attribute

set_option autoImplicit false

/-! # Declared classes and objects

The classes and objects that a test file declares. The attributes of a class are values; as no value
but a class can be called, an attribute that an operator would call makes the operator fail.
-/

namespace TestSkeleton

/-- A declared object. -/
structure ObjectDeclaration where
  name : Text
  cls : ClassRef
  attributes : List Text := []

/-- What a test file declares. -/
structure Declarations where
  table : ClassTable := {}
  /-- The names of the declared classes. -/
  classes : List (Text × ClassRef) := []
  objects : List ObjectDeclaration := []

namespace Declarations

/-- How many calls may be inside of each other. No attribute leads to more than one. -/
def callLimit : Nat := 8

/-- The declared object of this name. -/
def object? (d : Declarations) (name : Text) : Option ObjectDeclaration :=
  d.objects.find? fun o => o.name == name

/-- The class that a name stands for. -/
def classNamed (d : Declarations) (name : Text) : ClassRef :=
  (d.classes.lookup name).getD (.builtin name)

/-- A class as a value. -/
def classValue (d : Declarations) (name : Text) : Value :=
  let c := d.classNamed name
  .type c (d.table.title c)

/-- What an attribute stands for. -/
def binding : Value → Binding
  | .type c _ => .cls c
  | v => .value v

/-! ## Declaring -/

/-- The misuse that a class cannot be made for. -/
def misuseOf (f : ClassFault) : Misuse := if f.isAboutValue then .wrongValue else .wrongType

/-- The module that classes are declared in. -/
def moduleName : Text := "__main__"

/-- Declares a class. Its ancestors are told of it. -/
def declareClass (d : Declarations) (name : Text) (bases : List Text)
    (attributes : List (Text × Value)) : Except Misuse Declarations := do
  let names : Layer := attributes.map fun a => (a.1, binding a.2)
  let draft : ClassDraft := {
    name
    bases := bases.map d.classNamed
    names := names.bindMissing "__module__".toList (.text moduleName) }
  let (table, c) ← (d.table.declare draft).mapError misuseOf
  match table.firstOwner? ClassTable.subclassHook (table.linearization c).tail with
  | some (.declared _, _) => throw .wrongType
  | _ => return { d with table, classes := (name, c) :: d.classes }

/-- An attribute of objects that a declared class has and that is looked up in the class alone. -/
def special? (d : Declarations) (c : ClassRef) (name : String) : Option Binding :=
  d.table.declaredAttribute? c name.toList

/-- Sets an attribute of a new object of a class, if this can be done. -/
def setAttribute (d : Declarations) (c : ClassRef) (name : Text) (v : Value) :
    Except Misuse Unit :=
  match d.table.find? c name with
  | some (_, .descriptor .member ..) => .ok ()
  | some (owner, .descriptor .getter ..) =>
    if name == "__class__".toList || (name == ClassTable.dictionarySlot && v.entries?.isNone) then
      .error .wrongType
    else if name == ClassTable.dictionarySlot && owner != .builtin Builtin.object then .ok ()
    else .error .noSuchAttribute
  | _ => if d.table.hasDictionary c then .ok () else .error .noSuchAttribute

/-- The attribute that holds the name of an object. -/
def labelName : Text := "_label"

/-- Declares an object, which is made without arguments and then given its attributes. -/
def declareObject (d : Declarations) (name cls : Text) (attributes : List (Text × Value)) :
    Except Misuse Declarations := do
  let c := d.classNamed cls
  let _ ← (d.table.call callLimit (.cls c) []).result.mapError fun _ => .wrongType
  if (d.special? c "__setattr__").isSome then throw .wrongType
  for (n, v) in (labelName, .str name) :: attributes do
    d.setAttribute c n v
  return { d with objects := ⟨name, c, labelName :: attributes.map Prod.fst⟩ :: d.objects }

/-- The type of plain data that a class is derived from, if there is one. -/
def plainBase? (d : Declarations) (c : ClassRef) : Option PlainType :=
  (d.table.linearization c).findSome? fun
    | .builtin name => PlainType.ofName? name
    | .declared _ => none

/-- The value that the name of an object stands for. -/
def objectValue? (d : Declarations) (name : Text) : Option Value :=
  (d.object? name).map fun o => .object name o.cls (d.table.className o.cls) (d.plainBase? o.cls)

/-! ## Classes of values -/

/-- The class that a value has. -/
def classOf (d : Declarations) (v : Value) : ClassRef := d.table.classOf (binding v)

/-- What an object says to be its class, if it says so. -/
def claim? (d : Declarations) : Value → Option Binding
  | .object _ c _ _ => d.special? c "__class__"
  | _ => none

/-- Whether the class of a value has an attribute for an operator. -/
def fails (d : Declarations) (v : Value) (operator : String) : Bool :=
  match v with
  | .object _ c _ _ => (d.special? c operator).isSome
  | _ => false

/-- Whether a value is of a class: by its own class, or else by the one that it says it has. -/
def hasClass (d : Declarations) (v : Value) (c : ClassRef) : Except Misuse Bool :=
  if d.table.isSubclass (d.classOf v) c then .ok true
  else if d.fails v "__getattribute__" then .error .wrongType
  else
    match d.claim? v with
    | some (.cls k) => .ok (d.table.isSubclass k c)
    | _ => .ok false

/-- Whether a value is of one of some built-in classes. -/
def hasAnyClass (d : Declarations) (v : Value) (names : List String) : Except Misuse Bool :=
  names.anyM fun n => d.hasClass v (.builtin n.toList)

mutual

/-- Whether a value is an instance of a class or of one of the classes in a tuple. The classes in a
tuple are looked at in order, and those behind the first one that fits can be anything. -/
def isInstance (d : Declarations) (v : Value) : Value → Except Misuse Bool
  | .type c _ => d.hasClass v c
  | .tuple cs => isInstanceOfAny d v cs
  | .object _ _ _ (some .tuple) => .ok false
  | _ => .error .wrongType

/-- Whether a value is an instance of one of several classes. -/
def isInstanceOfAny (d : Declarations) (v : Value) : List Value → Except Misuse Bool
  | [] => .ok false
  | c :: cs => do if ← isInstance d v c then return true else isInstanceOfAny d v cs

end

/-! ## Attributes -/

/-- Whether a value has an attribute, of its own or by its class. -/
def hasAttribute (d : Declarations) (v : Value) (name : Text) : Except Misuse Bool :=
  let own := match v with
    | .object o _ _ _ => (d.object? o).any fun (o : ObjectDeclaration) => o.attributes.contains name
    | _ => false
  if d.fails v "__getattribute__" then .error .wrongType
  else if own then .ok true
  else
    let b : Binding := match v with
      | .object _ c _ _ => .object c false
      | v => binding v
    match (d.table.getAttribute (fun _ => none) callLimit name b).result with
    | .ok _ => .ok true
    | .error f => if f.isAboutAttribute then .ok false else .error .wrongType

/-! ## Texts of values -/

/-- The text of an object of plain data, if it is not the literal that the object has. -/
def plainText? (className : Text) : PlainType → Option Text
  | .str => some []
  | .bytes => some "b''"
  | .bytearray => some (className ++ "(b'')")
  | _ => none

/-- The text of a value as it is put into sentences. An exception that was made without a message
has an empty one; no text can be had if the class has an attribute for it. -/
def textOf (d : Declarations) (v : Value) : Except Misuse Text :=
  if d.fails v "__str__" then .error .wrongType
  else
    match v with
    | .object _ c className base =>
      if d.table.derivesFrom c "SyntaxError".toList then .ok "None"
      else if d.table.derivesFrom c Builtin.exception then .ok []
      else .ok ((base.bind (plainText? className)).getD v.shown)
    | v => .ok (v.text?.getD v.shown)

end Declarations

end TestSkeleton
