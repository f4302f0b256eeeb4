import TestSkeleton.Source.Field
import TestSkeleton.Source.Signature

set_option autoImplicit false

/-! # Calls

What names stand for is called with arguments, by a decorator, to make an exception, or to make a
class. The functions of a module yield nothing. A class makes an object: `__new__` makes it and
`__init__` prepares it. A call can write to the standard output before it yields or fails.

An attribute that is found in a class has to be taken from it before it is used, which makes a
function a method, and which can be a call too.
-/

namespace TestSkeleton

namespace ClassTable

open Text

/-! ## Marks -/

/-- Whether nothing of an object's own hides an attribute of its class. -/
def isData (t : ClassTable) : Binding → Bool
  | .property .. => true
  | .descriptor kind .. => kind.isData
  | .object c _ => (t.declaredAttribute? c "__set__".toList).isSome
      || (t.declaredAttribute? c "__delete__".toList).isSome
  | _ => false

/-- Marks a thing as abstract that is no function. This can be done to what has attributes of its
own. -/
def markObject (t : ClassTable) (b : Binding) : Attempt Binding :=
  let mark := Builtin.abstractMark
  match b with
  | .cls (.builtin name) => .error (.immutableClass mark name)
  | .cls (.declared _) | .module _ => .ok b
  | b =>
    let c := t.classOf b
    match t.find? c mark with
    | some (owner, raw) =>
      if t.isData raw then .error (.unwritable mark (t.className owner))
      else if t.hasDictionary c then .ok b
      else .error (.readOnly mark (t.className c))
    | none =>
      if t.hasDictionary c then .ok b else .error (.noAttribute (t.className c) mark)

/-- Marks a thing as abstract. -/
def markAbstract (t : ClassTable) : Binding → Attempt Binding
  | .function f => .ok (.function { f with isAbstract := true })
  | .object c isMarked => do
    let _ ← t.markObject (.object c isMarked)
    return .object c true
  | b => t.markObject b

/-! ## Built-in functions and classes -/

/-- Whether a class has one of some attributes. -/
def hasAny (t : ClassTable) (c : ClassRef) (names : List Text) : Bool :=
  names.any fun n =>
    match t.find? c n with
    | some (_, .value .none) | none => false
    | some _ => true

/-- Whether a class declares one of some operators: what an object of it answers is up to them. -/
def declaresAny (t : ClassTable) (c : ClassRef) (names : List Text) : Bool :=
  names.any fun n =>
    match t.declaredAttribute? c n with
    | some (.value .none) | some (.descriptor .getter ..) | none => false
    | some _ => true

/-- Fails if a built-in function or class refuses its argument. What comes of an argument is not
known if a declared operator is asked, or if it is read and what is in it is not known. -/
def checkArgument (t : ClassTable) (table : List (String × Signature)) (name : Text)
    (b : Binding) : Attempt Unit :=
  let c := t.classOf b
  match b.text?.bind (Builtin.refusalOfText? name) with
  | some [] => .ok ()
  | some refusal =>
    .error (if Builtin.valueReaders.contains name then .badValue refusal else .refused refusal)
  | none =>
    if (t.isUnknownText b || t.hasUnknownItems b) && Builtin.readers.contains name then
      .error .unknown
    else
      match Builtin.signature? table name with
      | none => .ok ()
      | some s =>
        let asked := s.needs.getD (Builtin.operatorsAsked name)
        let hasUnknownTruth := name == "bool".toList && !(b matches .value _) && t.hasAny c asked
        if b.isUnknown || hasUnknownTruth || t.declaresAny c asked then .error .unknown
        else if s.needs.all (t.hasAny c) then .ok ()
        else .error (.refused (s.refusalOf (t.typeName b)))

/-- The text by which something is written. Of what differs from others of its class by its place
alone, only the class is told. -/
def textOf (t : ClassTable) : Binding → Text
  | .value v => v.shown
  | .cls c => Value.classText (t.title c)
  | .builtinFunction name => "<built-in function " ++ name ++ ['>']
  | .descriptor kind owner name =>
    let noun : Text := match kind with
      | .operator => "slot wrapper"
      | .method | .classMethod | .function => "method"
      | .getter => "attribute"
      | .member => "member"
    '<' :: noun ++ ' ' :: name.quoted ++ " of " ++ owner.quoted ++ " objects>"
  | b => '<' :: t.title (t.classOf b) ++ " object>"

/-- Whether the text of a thing is up to what is in it or to a declared operator, and so not known. -/
def hasOwnText (t : ClassTable) (b : Binding) : Bool :=
  b.isUnknown || t.declaresAny (t.classOf b) (Builtin.operatorsAsked "print")
    || match b with
      | .object c _ => (Builtin.operatorsAsked "print").any fun n =>
        (t.find? c n).any fun a => a.1 != .builtin Builtin.object
      | _ => false

/-- Writes things to the standard output, on one line. -/
def write (t : ClassTable) (bs : List Binding) : Action Unit :=
  .tell (.textWritten (joinWith [' '] (bs.map t.textOf) ++ ['\n']))

/-- What a built-in function yields, if all it is known by is the class. -/
def yielded (s : Option Signature) : Binding := .objectOf (s.elim [] (·.result))

/-- Calls a built-in function without an argument. -/
def callEmpty (name : Text) : Attempt Binding :=
  match Builtin.signature? Builtin.functionsOfNone name with
  | none => .error (.refused (name ++ "() takes exactly one argument (0 given)"))
  | some s => if s.needs.isNone then .ok (yielded s) else .error (.refused s.refusal)

/-- Calls a built-in function. -/
def callFunction (t : ClassTable) (name : Text) (args : List Binding) : Action Binding :=
  if name == "print".toList then
    if args.any t.hasOwnText then .fail .unknown
    else do
      t.write args
      return .nothing
  else
    match args with
    | [b] => do
      if Builtin.isOutward name (b.text?.isSome || t.isUnknownText b) then Logged.fail .unknown
      t.checkArgument Builtin.functionSignatures name b
      return yielded (Builtin.signature? Builtin.functionSignatures name)
    | [] => if Builtin.isOutward name false then .fail .unknown else callEmpty name
    | _ => .fail .unknown

/-- The built-in classes whose objects read the argument when they are prepared, and not when they
are made. -/
def preparedClasses : List Text :=
  words ("list dict set bytearray super module UnicodeDecodeError UnicodeEncodeError
    UnicodeTranslateError").toList

/-- The failure to make an object of a class that has something abstract in it. -/
def abstractRefusal (className : Text) (names : List Text) : Text :=
  let sorted := (names.eraseDups).mergeSort fun s t => compare s t != .gt
  "Can't instantiate abstract class " ++ className ++ " with abstract method"
    ++ (if sorted.length == 1 then [] else ['s']) ++ ' ' :: joinWith ", " sorted

/-- Whether objects of a class come into being in no other way than by themselves. -/
def makesNone (c : ClassRef) : Bool :=
  match c with
  | .builtin name => Builtin.hiddenClasses.contains name && !Builtin.abstractClasses.contains name
      && (Builtin.ownAttribute? name "__new__".toList).isNone
  | .declared _ => false

/-- The nearest built-in class among those that the objects of a class are made like, found in as
many steps as `fuel`. -/
def builtinBase (t : ClassTable) : Nat → ClassRef → Text
  | _, .builtin name => name
  | 0, _ => Builtin.object
  | fuel + 1, c => (t.base? c).elim Builtin.object (builtinBase t fuel)

/-- The built-in class that makes the objects of a class, if no declared one does. -/
def builtinMaker (t : ClassTable) (c : ClassRef) : Text :=
  let base := t.builtinBase (t.classes.length + 1) c
  match t.find? (.builtin base) "__new__".toList with
  | some (.builtin maker, _) => maker
  | _ => base

/-- Fails if a built-in class does not make an object of the class `c` from the arguments. -/
def checkMaking (t : ClassTable) (c : ClassRef) (maker : Text) (args : List Binding) :
    Attempt Unit := do
  if maker == Builtin.object then
    let prepares := match t.find? c "__init__".toList with
      | some (owner, _) => owner != .builtin Builtin.object
      | none => false
    if !args.isEmpty && !prepares then
      throw (.refused (t.className c ++ "() takes no arguments"))
    match t.abstractNamesOf c with
    | [] => return
    | names => throw (.refused (abstractRefusal (t.className c) names))
  else
    match args with
    | [b] =>
      if maker == Builtin.metaclass then
        if c != .builtin Builtin.metaclass then
          throw (.refused "type.__new__() takes exactly 3 arguments (1 given)".toList)
        else if b.isUnknown then throw .unknown
      if !preparedClasses.contains maker then
        t.checkArgument Builtin.classSignatures maker b
    | [_, _, _] =>
      match Builtin.refusalOfThree? maker with
      | some refusal => throw (.refused refusal)
      | none => return
    | [] =>
      if maker == Builtin.metaclass && c != .builtin Builtin.metaclass then
        throw (.refused "type.__new__() takes exactly 3 arguments (0 given)".toList)
      match Builtin.refusalOfNone? Builtin.makersOfNone maker with
      | some refusal => throw (.refused refusal)
      | none => return
    | _ => throw .unknown

/-- Fails if a built-in class does not prepare an object with the arguments. -/
def checkPreparing (t : ClassTable) (preparer : Text) (args : List Binding) : Attempt Unit :=
  match args with
  | [b] =>
    if preparedClasses.contains preparer then t.checkArgument Builtin.classSignatures preparer b
    else .ok ()
  | [] =>
    -- without an argument, the class around the caller is looked for
    if preparer == "super".toList then .error .unknown
    else
      match Builtin.refusalOfNone? Builtin.preparersOfNone preparer with
      | some refusal => .error (.refused refusal)
      | none => .ok ()
  | _ => .ok ()

/-- The object of a class that was prepared with some arguments. -/
def prepared (t : ClassTable) (c : ClassRef) (args : List Binding) : Binding :=
  let arg (n : Nat) : Binding := (args[n]?).getD .nothing
  if t.derivesFrom c "staticmethod".toList then .staticMethod c (arg 0)
  else if t.derivesFrom c "classmethod".toList then .classMethod c (arg 0)
  else if t.derivesFrom c "property".toList then .property c (arg 0) (arg 1) (arg 2)
  else
    match c, args with
    | .builtin name, [b] =>
      if name == Builtin.metaclass then .cls (t.classOf b)
      else if name == "bool".toList then .value (.bool b.isTruthy)
      else if name == "str".toList then b.text?.elim (.objectOf name) .text
      else .objectOf name
    | .builtin name, [] =>
      match name.asString with
      | "str" => .text []
      | "bool" => .value (.bool false)
      | "int" => .value (.int 0)
      | _ => .objectOf name
    | c, _ => .object c false

/-- The failure of calling an object of a class that declares nothing for this. Of parts of modules,
only the name is known. -/
def uncallable (t : ClassTable) (c : ClassRef) (args : List Binding) : Fault :=
  if c == .builtin "Quitter" then
    match args with
    | [.value (.str message)] => .ending (.exit message)
    | _ => .unknown
  else if [ClassRef.builtin "_Printer", .builtin "_Helper", .builtin Builtin.object].contains c then
    .unknown
  else .notCallable (t.className c)

/-! ## Taking attributes and calling -/

/-- Whether an attribute is an object of a built-in class. -/
def isOf (t : ClassTable) (owner : Text) (b : Binding) : Bool := t.isInstance b owner

/-- The failure of an attribute of a built-in class for an object of another class. -/
def wrongSelf (kind : AttributeKind) (owner name typeName : Text) : Fault :=
  .refused (match kind with
    | .operator =>
      "descriptor '" ++ name ++ "' requires a '" ++ owner ++ "' object but received a '" ++ typeName
        ++ ['\'']
    | _ =>
      "descriptor '" ++ name ++ "' for '" ++ owner ++ "' objects doesn't apply to a '" ++ typeName
        ++ "' object")

/-- The failure of an attribute of a built-in class without an object. -/
def noSelf (kind : AttributeKind) (owner name : Text) : Fault :=
  .refused (match kind with
    | .operator => "descriptor '" ++ name ++ "' of '" ++ owner ++ "' object needs an argument"
    | _ => "unbound method " ++ owner ++ '.' :: name ++ "() needs an argument")

/-- A property with another function that reads, sets or deletes it. -/
def changed (c : ClassRef) (getter setter deleter : Binding) (name : Text) (b : Binding) :
    Option Binding :=
  match name.asString with
  | "getter" => some (.property c b setter deleter)
  | "setter" => some (.property c getter b deleter)
  | "deleter" => some (.property c getter setter b)
  | _ => none

/-- The name of a method of a built-in class that was taken from a thing, behind that of the class
it was taken from. -/
def titleOfMethod (t : ClassTable) (self : Binding) (name : Text) : Text :=
  let c := match self with
    | .cls c => c
    | b => t.classOf b
  t.qualifiedName c ++ '.' :: name

mutual

/-- What an attribute is that was found in the class `owner` or in an ancestor of it, when it is
taken from an object of that class or, without an object, from the class itself. -/
def take (t : ClassTable) (self : Option Binding) (owner : ClassRef) :
    Nat → Binding → Action Binding
  | 0, b => pure b
  | fuel + 1, b =>
    match b, self with
    | .function _, some s => pure (.boundMethod b s)
    | .classMethod _ (.property c getter setter deleter), _ =>
      take t (some (.cls owner)) (t.metaclass owner) fuel (.property c getter setter deleter)
    | .classMethod _ (.staticMethod _ inner), _ => pure inner
    | .classMethod c (.classMethod _ inner), _ => take t self owner fuel (.classMethod c inner)
    | .property _ (.value .none) .., some s => .fail (.unreadable [] (t.typeName s))
    | .property _ getter .., some s => call t fuel getter [s]
    | .descriptor .function .., _ => pure b
    | .descriptor .classMethod .., _ => pure (fromClass owner b)
    | .descriptor kind builtinOwner name, some s =>
      if kind.isData then t.field name s
      else if t.isOf builtinOwner s then pure (.builtinMethod kind builtinOwner name s)
      else .fail (wrongSelf kind builtinOwner name (t.typeName s))
    | .object c _, _ =>
      match t.declaredAttribute? c "__get__".toList with
      | some getter => do
        call t fuel (← take t (some b) c fuel getter) [self.getD .nothing, .cls owner]
      | none => pure b
    | _, _ => pure (fromClass owner b)

/-- Calls what a name stands for, in as many steps as the number says. -/
def call (t : ClassTable) : Nat → Binding → List Binding → Action Binding
  | 0, b, _ => .fail (.notCallable (t.typeName b))
  | fuel + 1, b, args =>
    match b, args with
    | .function f, _ =>
      match f.effect, args with
      | .nothing, _ | .wrapsAbstract, _ => pure .nothing
      | .marksAbstract, [a] => t.markAbstract a
      | .yieldsArgument, [a] => pure a
      | .lists .., [_] => .fail .unknown
      | _, [] => .fail (.refused (f.name ++ "() missing 1 required positional argument"))
      | _, args => .fail (.refused (f.name ++ "() takes 1 positional argument but "
          ++ ofNat args.length ++ " were given"))
    | .staticMethod _ inner, _ => call t fuel inner args
    | .boundMethod inner s, _ => call t fuel inner (s :: args)
    | .builtinFunction name, _ => t.callFunction name args
    | .cls c, _ => construct t fuel c args
    | .descriptor .getter .., _ | .descriptor .member .., _ => .fail (.notCallable (t.typeName b))
    | .descriptor .function owner name, a :: _ =>
      match a with
      | .cls c => construct t fuel c args.tail
      | a => .fail (.refused (owner ++ '.' :: name ++ "(X): X is not a type object ("
          ++ t.typeName a ++ ")"))
    | .descriptor kind owner name, a :: as =>
      if t.isOf owner a then call t fuel (.builtinMethod kind owner name a) as
      else .fail (wrongSelf kind owner name (t.typeName a))
    | .descriptor kind owner name, [] => .fail (noSelf kind owner name)
    | .builtinMethod _ _ name (.property c getter setter deleter), [a] =>
      pure ((changed c getter setter deleter name a).getD (.objectOf "object"))
    | .builtinMethod kind _ name s, args =>
      match Builtin.refusalOfCount? kind (t.titleOfMethod s name) name args.length with
      | some refusal => .fail (.refused refusal)
      | none =>
        match name.asString, args with
        | "__call__", _ => call t fuel s args
        | "__get__", [a] => take t (some a) (t.classOf a) fuel s
        | "__init__", _ =>
          pure (if kind == .operator then .nothing else .objectOf Builtin.object)
        | _, _ => pure (.objectOf (Builtin.resultOfMethod kind name))
    | .object c _, args =>
      match t.declaredAttribute? c "__call__".toList with
      | some f => do call t fuel (← take t (some b) c fuel f) args
      | none => .fail (t.uncallable c args)
    | b, _ => .fail (.notCallable (t.typeName b))

/-- Makes an object of a class. -/
def construct (t : ClassTable) : Nat → ClassRef → List Binding → Action Binding
  | 0, c, _ => .fail (.notCallable (t.className (t.metaclass c)))
  | fuel + 1, c, args =>
    match if makesNone c then none else t.find? c "__new__".toList with
    | some (.declared _, maker) => do
      let made ← call t fuel (← take t none c fuel maker) (.cls c :: args)
      if t.isSubclass (t.classOf made) c then prepare t fuel c args else return made
    | some (.builtin _, _) => do
      t.checkMaking c (t.builtinMaker c) args
      prepare t fuel c args
    | none => .fail (.refused ("cannot create '" ++ t.className c ++ "' instances".toList))

/-- Prepares a new object of a class. -/
def prepare (t : ClassTable) : Nat → ClassRef → List Binding → Action Binding
  | 0, c, _ => pure (.object c false)
  | fuel + 1, c, args =>
    match t.find? c "__init__".toList with
    | some (.declared _, f) => do
      let self := t.prepared c []
      match ← call t fuel (← take t (some self) c fuel f) args with
      | .value .none => return self
      | r => .fail (.refused ("__init__() should return None, not '" ++ t.typeName r ++ ['\'']))
    | some (.builtin _, .function _) => do
      return t.prepared c [← t.markAbstract ((args.head?).getD .nothing)]
    | some (.builtin preparer, _) => do
      t.checkPreparing preparer args
      return t.prepared c args
    | none => pure (t.prepared c args)

end

end ClassTable

end TestSkeleton
