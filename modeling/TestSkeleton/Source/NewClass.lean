import TestSkeleton.Source.ClassTable
import TestSkeleton.Source.Fault
import TestSkeleton.Text.Class
import TestSkeleton.Value.Collection

set_option autoImplicit false

/-! # Making classes

A class is made from its name, its bases and the names that its body has bound. The bases have to
agree on the form of objects and on the order of their ancestors. Among the names, `__slots__` names
the members of objects.
-/

namespace TestSkeleton

open Text

/-- What a class is made from. -/
structure ClassDraft where
  name : Text
  bases : List ClassRef
  names : Layer
  /-- The class that makes the class, if its ancestors do not tell. -/
  maker? : Option ClassRef := none
  /-- The order in which the maker wants the class and its ancestors to be looked at, if it has a say
  in it. -/
  order? : Option (List Binding) := none

/-- A name as it is bound in a class: one that starts with two underscores and does not end so is
made the class's own, unless the name of the class has nothing but underscores. -/
def privateName (cls name : Text) : Text :=
  let bare := cls.dropWhile (· == '_')
  if startsWith ['_', '_'] name && !endsWith ['_', '_'] name && !name.contains '.'
      && !bare.isEmpty then
    '_' :: bare ++ name
  else name

namespace ClassTable

/-! ## The form of objects -/

/-- The class that gives the objects of a class their form. -/
def layout (t : ClassTable) : ClassRef → ClassRef
  | .declared n => ((t.declared? n).map (·.layout)).getD (.builtin Builtin.object)
  | .builtin name =>
    .builtin (((Builtin.linearization name).find? Builtin.layouts.contains).getD Builtin.object)

/-- Whether the objects of a class can be referred to without being kept. -/
def isWeaklyReferable (t : ClassTable) : ClassRef → Bool
  | .declared n => ((t.declared? n).map (·.isWeaklyReferable)).getD false
  | .builtin name => Builtin.weaklyReferable.contains name

/-- Whether the objects of a class have a size of their own. -/
def isSized (t : ClassTable) (c : ClassRef) : Bool :=
  Builtin.sizedClasses.any fun name => t.derivesFrom c name

/-- Fails for a class that no class can be derived from. -/
def checkBase (c : ClassRef) : Except ClassFault Unit :=
  match c with
  | .builtin name =>
    if Builtin.finalClasses.contains name then .error (.finalBase name) else .ok ()
  | .declared _ => .ok ()

/-- The base among the others that objects are made like, if `best` is the one so far: the one whose
form is derived from the forms of all. -/
def bestBase (t : ClassTable) (best : ClassRef) : List ClassRef → Except ClassFault ClassRef
  | [] => .ok best
  | c :: cs => do
    checkBase c
    if t.isSubclass (t.layout best) (t.layout c) then bestBase t best cs
    else if t.isSubclass (t.layout c) (t.layout best) then bestBase t c cs
    else throw .layoutConflict

/-! ## Members of objects -/

/-- The names of the members of objects, as they are written. -/
def slotItems (t : ClassTable) (b : Binding) : Except ClassFault (List Value) :=
  match b with
  | .value v =>
    match v.text?, v.items? with
    | some s, _ => .ok [.str s]
    | none, some vs => .ok vs
    | none, none => .error (.slotsNotIterable (t.typeName b))
  | b => .error (.slotsNotIterable (t.typeName b))

/-- The special names of members: where objects have their own attributes, and how they are referred
to without being kept. -/
def dictionarySlot : Text := "__dict__"
def weakReferenceSlot : Text := "__weakref__"

/-- Checks the names of members. A dictionary and a weak reference can be asked for once, if the
objects do not have them. -/
def checkSlots (mayHaveDictionary mayBeWeak : Bool) :
    List Value → Except ClassFault (List Text)
  | [] => .ok []
  | v :: vs =>
    match v with
    | .str s =>
      if !isName s then .error .slotNotName
      else if s == dictionarySlot && !mayHaveDictionary then .error .secondDictionary
      else if s == weakReferenceSlot && !mayBeWeak then .error .secondWeakReference
      else
        (checkSlots (mayHaveDictionary && s != dictionarySlot)
          (mayBeWeak && s != weakReferenceSlot) vs).map (s :: ·)
    | v => .error (.slotNotText v.typeName)

/-- The names that are bound while the body is carried out and that the class does not keep. -/
def passingNames : List Text := ["__qualname__", "__classcell__"]

/-- The members among the names that are asked for; none can be an attribute of the class. -/
def memberNames (cls : Text) (names : Layer) (slots : List Text) :
    Except ClassFault (List Text) := do
  let members := (slots.filter fun s => s != dictionarySlot && s != weakReferenceSlot).map
    (privateName cls)
  match members.find? fun m => (names.lookup m).isSome && !passingNames.contains m with
  | some m => throw (.slotConflict m)
  | none => return members

/-- The form of the objects of a new class. -/
structure ObjectForm where
  members : List Text := []
  addsDictionary : Bool
  addsWeakReference : Bool

/-- The form that the objects of a new class have beyond those of its base. -/
def objectForm (t : ClassTable) (d : ClassDraft) (base : ClassRef) :
    Except ClassFault ObjectForm := do
  let mayHaveDictionary := !t.hasDictionary base
  let mayBeWeak := !t.isWeaklyReferable base && !t.isSized base
  match d.names.lookup "__slots__".toList with
  | none => return { addsDictionary := mayHaveDictionary, addsWeakReference := mayBeWeak }
  | some b =>
    let items ← t.slotItems b
    if !items.isEmpty && t.isSized base then throw (.sizedBase (t.className base))
    let slots ← checkSlots mayHaveDictionary mayBeWeak items
    return {
      members := ← memberNames d.name d.names slots
      addsDictionary := slots.contains dictionarySlot
        || (mayHaveDictionary && d.bases.any t.hasDictionary)
      addsWeakReference := slots.contains weakReferenceSlot
        || (mayBeWeak && d.bases.any t.isWeaklyReferable) }

/-! ## Names -/

/-- The name that the class gives itself, behind those of the classes around it. -/
def qualifiedNameOf (t : ClassTable) (d : ClassDraft) : Except ClassFault Text :=
  match d.names.lookup "__qualname__".toList with
  | none => .ok d.name
  | some b =>
    match b.text? with
    | some q => .ok q
    | none => .error (.qualifiedNameNotText (t.typeName b))

/-- Fails if the body has bound the name by which methods refer to their class. -/
def checkCell (t : ClassTable) (d : ClassDraft) : Except ClassFault Unit :=
  match d.names.lookup "__classcell__".toList with
  | none => .ok ()
  | some b => .error (.wrongCell (t.title (t.classOf b)))

/-- The attribute by which a class is told of the classes derived from it. -/
def subclassHook : Text := "__init_subclass__"

/-- An attribute as the class has it: some functions are methods of the class itself by their
names. -/
def settleMethod (a : Text × Binding) : Text × Binding :=
  match a.2 with
  | .function _ =>
    if a.1 == "__new__".toList then (a.1, .staticMethod (.builtin "staticmethod") a.2)
    else if a.1 == subclassHook || a.1 == "__class_getitem__".toList then
      (a.1, .classMethod (.builtin "classmethod") a.2)
    else a
  | _ => a

/-- The attributes as the class has them. Each class has a doc comment, if only nothing; one that
says when its objects are equal has to say by which number they are found. -/
def settle (d : ClassDraft) (form : ObjectForm) : Layer :=
  let member (name : Text) : Text × Binding := (name, .descriptor .member d.name name)
  let getter (name : Text) : Text × Binding := (name, .descriptor .getter d.name name)
  let kept := (d.names.filter fun a => !passingNames.contains a.1).map settleMethod
  let added := form.members.map member
    ++ (if form.addsDictionary then [getter dictionarySlot] else [])
    ++ (if form.addsWeakReference then [getter weakReferenceSlot] else [])
    ++ [(Builtin.docName, .nothing)]
    ++ if (kept.lookup "__eq__".toList).isSome then [("__hash__".toList, .nothing)] else []
  added.foldl (fun l a => l.bindMissing a.1 a.2) kept

/-! ## Ancestors -/

/-- The base that comes twice, if there is one. -/
def repeated? : List ClassRef → Option ClassRef
  | [] => none
  | c :: cs => if cs.contains c then some c else repeated? cs

/-- The ancestors of a class with these bases, in the order in which they are looked at. -/
def ancestors (t : ClassTable) (bases : List ClassRef) : Except ClassFault (List ClassRef) :=
  match bases, repeated? bases with
  | [base], _ => .ok (t.linearization base)
  | _, some c => .error (.repeatedBase (t.className c))
  | bases, none =>
    match Linearization.merge (bases.map t.linearization ++ [bases]) with
    | .ok cs => .ok cs
    | .error cs => .error (.noOrder (cs.map t.className))

/-- The classes in the order that the maker of the class `self` asks for. The objects of each have to
have a form that the objects of the new class have too, which is `layout`. -/
def checkOrder (t : ClassTable) (self layout : ClassRef) :
    List Binding → Except ClassFault (List ClassRef)
  | [] => .ok []
  | .cls c :: bs =>
    if c == self || t.isSubclass layout (t.layout c) then
      (checkOrder t self layout bs).map (c :: ·)
    else .error (.orderLayout (t.className c))
  | b :: _ => .error (.orderNotClass (t.typeName b))

/-- The order in which a class `self` with these bases and its ancestors are looked at: the class
comes first, unless its maker asks for another order. -/
def orderOf (t : ClassTable) (d : ClassDraft) (self layout : ClassRef) (bases : List ClassRef) :
    Except ClassFault (List ClassRef) :=
  match d.order? with
  | none => (t.ancestors bases).map (self :: ·)
  | some [] => .error .emptyOrder
  | some bs => t.checkOrder self layout bs

/-! ## What is abstract -/

/-- Whether subclasses have to override an attribute. -/
def isAbstract : Binding → Bool
  | .function f => f.isAbstract
  | .staticMethod c b | .classMethod c b =>
    c == .builtin "abstractstaticmethod" || c == .builtin "abstractclassmethod" || isAbstract b
  | .property c getter setter deleter =>
    c == .builtin "abstractproperty" || isAbstract getter || isAbstract setter
      || isAbstract deleter
  | .boundMethod b _ => isAbstract b
  | .object _ isMarked => isMarked
  | _ => false

/-- The names that are abstract in a declared class. -/
def abstractNamesOf (t : ClassTable) : ClassRef → List Text
  | .declared n => ((t.declared? n).map (·.abstractNames)).getD []
  | .builtin _ => []

/-- The names that are abstract in a class with these attributes and bases: its own ones, and those
of its bases that it does not override. -/
def abstractNames (t : ClassTable) (bases : List ClassRef) (own : Layer) : List Text :=
  ((own.filter fun a => isAbstract a.2).map Prod.fst)
    ++ ((bases.flatMap t.abstractNamesOf).filter fun n => (own.lookup n).isNone)

/-! ## Classes -/

/-- What is settled of a class before its place among its ancestors is. -/
structure ClassForm where
  base : ClassRef
  form : ObjectForm
  qualifiedName : Text

/-- The bases of a class, which is derived from the class above all others if none are given. -/
def basesOf (d : ClassDraft) : List ClassRef :=
  if d.bases.isEmpty then [.builtin Builtin.object] else d.bases

/-- The base that the objects of a class are made like. -/
def baseOf (t : ClassTable) (d : ClassDraft) : Except ClassFault ClassRef :=
  match basesOf d with
  | [] => .ok (.builtin Builtin.object)
  | c :: cs => do checkBase c; t.bestBase c cs

/-- Settles the form of a class, if its bases and the names of its body allow for it. -/
def formOf (t : ClassTable) (d : ClassDraft) : Except ClassFault ClassForm := do
  let base ← t.baseOf d
  let form ← t.objectForm d base
  let qualifiedName ← t.qualifiedNameOf d
  t.checkCell d
  return { base, form, qualifiedName }

/-- The attribute for what is abstract in a class, which a class that keeps count makes itself. -/
def abstractNamesName : Text := "__abstractmethods__"

/-- The class that makes a class with these ancestors. -/
def makerOf (d : ClassDraft) (order : List ClassRef) : ClassRef :=
  d.maker?.getD (.builtin
    (if order.contains (.builtin Builtin.abstractClass) then Builtin.abstractMetaclass
      else Builtin.metaclass))

/-- Whether what a class makes keeps count of what is abstract in it. -/
def keepsCount (t : ClassTable) (maker : ClassRef) : Bool :=
  t.isSubclass maker (.builtin Builtin.abstractMetaclass)

/-- The attributes of a class with this maker. -/
def ownLayer (t : ClassTable) (d : ClassDraft) (form : ObjectForm) (maker : ClassRef) : Layer :=
  if t.keepsCount maker then (settle d form).bind abstractNamesName (.objectOf "frozenset")
  else settle d form

/-- Makes a class, which gets the next number. -/
def declare (t : ClassTable) (d : ClassDraft) : Except ClassFault (ClassTable × ClassRef) := do
  let settled ← t.formOf d
  let base := settled.base
  let form := settled.form
  let self := ClassRef.declared t.classes.length
  let linearization ← t.orderOf d self (t.layout base) (basesOf d)
  let maker := makerOf d linearization
  let c : DeclaredClass := {
    name := d.name, qualifiedName := settled.qualifiedName, base, maker, linearization
    own := t.ownLayer d form maker
    layout := if form.members.isEmpty && !(form.addsDictionary && t.isSized base) then t.layout base
      else self
    hasDictionary := t.hasDictionary base || form.addsDictionary
    isWeaklyReferable := t.isWeaklyReferable base || form.addsWeakReference
    abstractNames :=
      if t.keepsCount maker then t.abstractNames (basesOf d) (settle d form) else [] }
  return ({ t with classes := t.classes ++ [c] }, self)

/-! ## What is not known -/

/-- Whether a thing can be a text, and which one is not known. -/
def isUnknownText (t : ClassTable) (b : Binding) : Bool :=
  b.text?.isNone && (b.isUnknown || t.derivesFrom (t.classOf b) "str".toList)

/-- Whether a thing can have members, and which ones is not known. -/
def hasUnknownItems (t : ClassTable) (b : Binding) : Bool :=
  match b with
  | .value _ => false
  | b => b.isUnknown
    || ["__iter__", "__getitem__"].any fun n => (t.find? (t.classOf b) n.toList).isSome

/-- Whether it is up to the class of an attribute what comes of telling it its name. The functions of
a module make nothing of that. -/
def asksForName (t : ClassTable) (b : Binding) : Bool :=
  match t.declaredAttribute? (t.classOf b) "__set_name__".toList with
  | none | some (.function { effect := .nothing, .. }) => false
  | some _ => true

/-- Whether it is up to the class of an attribute what comes of asking whether it is abstract. -/
def asksForMark (t : ClassTable) (b : Binding) : Bool :=
  [Builtin.abstractMark, "__getattribute__", "__getattr__"].any fun n =>
    (t.declaredAttribute? (t.classOf b) n).isSome

/-- Whether the body of a class has bound what should be the count of what is abstract in it. -/
def saysAbstractNames (t : ClassTable) (c : ClassRef) : Bool :=
  match t.own? abstractNamesName c with
  | none => false
  | some b => (b matches .value _) || t.typeName b != "frozenset".toList

/-- Whether it is not known what is made of a draft: where the class says to be from, which members
its objects have, what its attributes make of their names, or what is abstract in it. -/
def isOpen (t : ClassTable) (d : ClassDraft) : Bool :=
  (["__module__", "__qualname__"].any fun n => (d.names.lookup n.toList).any t.isUnknownText)
    || (d.names.lookup "__slots__".toList).any t.hasUnknownItems
    || (d.names.any fun a => t.asksForName a.2)
    || ((d.bases.any t.saysAbstractNames || d.names.any fun a => t.asksForMark a.2)
      && t.keepsCount (d.maker?.getD (.builtin Builtin.metaclass)))

end ClassTable

end TestSkeleton
