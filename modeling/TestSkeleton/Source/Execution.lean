import TestSkeleton.Source.Attribute
import TestSkeleton.Source.Class
import TestSkeleton.Source.Item

set_option autoImplicit false

/-! # Carrying out modules

A module is carried out statement by statement. Each binds a name, in the class around it or else in
the module; the body of a class is carried out before the class is made. The first failure ends the
module. What is called on the way can write to the standard output.
-/

namespace TestSkeleton

open Text

/-- The names bound so far, and the classes made. -/
structure Execution where
  /-- The classes of this module and of those that were carried out before it. -/
  table : ClassTable := {}
  /-- The modules that were carried out before, with their names. -/
  modules : List (Text × Layer) := []
  globals : Layer := []
  /-- The names of the class around the statement. -/
  locals : Option Layer := none
  /-- How many calls may be inside of each other. -/
  callLimit : Nat := 0

/-- The classes around a statement. -/
structure Surroundings where
  /-- The name of the innermost class. -/
  cls : Option Text := none
  /-- What the qualified names of classes start with here. -/
  path : Text := []

namespace Execution

/-- Binds a name. -/
def bind (name : Text) (b : Binding) (x : Execution) : Execution :=
  match x.locals with
  | some ls => { x with locals := some (ls.bind name b) }
  | none => { x with globals := x.globals.bind name b }

/-- A name as it is bound among these surroundings. -/
def mangle (s : Surroundings) (name : Text) : Text := s.cls.elim name fun c => privateName c name

/-! ## Looking names up -/

/-- What a simple name stands for: in the class around, in the module, or at all. -/
def simple (x : Execution) (name : Text) : Attempt Binding :=
  match (x.locals.getD []).lookup name with
  | some b => .ok b
  | none =>
    match x.globals.lookup name with
    | some b => .ok b
    | none =>
      match Builtin.binding? name with
      | some b => .ok b
      | none => .error (.undefinedName name)

/-- The names of a module that are known. -/
def membersOf (x : Execution) (module : Text) : Option Layer :=
  if module == Builtin.abstractModule then some Builtin.abstractMembers else x.modules.lookup module

/-- An attribute of what a name stands for. -/
def attributeOf (x : Execution) (b : Binding) (name : Text) : Action Binding :=
  x.table.getAttribute x.membersOf x.callLimit name b

/-- What a dotted name stands for. What another text stands for is not known. -/
def dotted (s : Surroundings) (x : Execution) (name : Text) : Action Binding :=
  if !(splitOn '.' name).all isName then .fail .unknown
  else
    match (splitOn '.' name).map (mangle s) with
    | [] => .fail (.undefinedName [])
    | first :: rest => do rest.foldlM x.attributeOf (← x.simple first)

/-- Calls what a name stands for. -/
def call (x : Execution) (b : Binding) (args : List Binding) : Action Binding :=
  x.table.call x.callLimit b args

/-! ## Classes -/

/-- The most derived of some classes, if it is derived from all others. -/
def mostDerived (t : ClassTable) (best : ClassRef) : List ClassRef → Attempt ClassRef
  | [] => .ok best
  | c :: cs =>
    if t.isSubclass best c then mostDerived t best cs
    else if t.isSubclass c best then mostDerived t c cs
    else .error .metaclassConflict

/-- The class that makes a class with these bases, if `given?` is asked for to make it. -/
def makerOf (t : ClassTable) (given? : Option Binding) (bases : List Binding) :
    Attempt ClassRef :=
  match given?, bases.map t.classOf with
  | some (.cls c), cs => mostDerived t c cs
  -- any function can be asked for, and what it makes is not known
  | some _, _ => .error .unknown
  | none, [] => .ok (.builtin Builtin.metaclass)
  | none, c :: cs => mostDerived t c cs

/-- The doc comment of a body: the one given, or the text that it starts with. -/
def docOf (doc : Option Text) (body : List Item) : Option Text :=
  match doc with
  | some d => some d
  | none =>
    match body.find? fun i => !(i matches .comment _) with
    | some (.text t) => Item.meaning? t
    | _ => none

/-- The names that a body starts with. -/
def firstNames (x : Execution) (qualifiedName : Text) (doc : Option Text) : Attempt Layer := do
  let module ← x.simple "__name__".toList
  let names : Layer := [("__module__", module), ("__qualname__", .text qualifiedName)]
  return names ++ doc.elim [] fun d => [(Builtin.docName, .text d)]

/-- Tells the ancestors of a new class of it: the first hook among those behind it is called. -/
def tellAncestors (x : Execution) (self : ClassRef) : Action Unit := do
  match (x.table.linearization self).dropWhile (· != self) with
  | [] => Logged.fail (.refused "super(type, obj): obj must be an instance or subtype of type")
  | _ :: behind =>
    match x.table.firstOwner? ClassTable.subclassHook behind with
    | some (.declared _, hook) =>
      let hook ← x.table.take none self x.callLimit hook
      let _ ← x.call hook []
    | _ => return

/-- The names of a class of classes that tell nothing of how it makes classes. -/
def plainNames : List Text := ["__module__", "__doc__"]

/-- Whether a class makes classes as the built-in ones do, but for the order in which a class and its
ancestors are looked at: no special name of it stands for something of its own. -/
def isPlainMaker (t : ClassTable) (maker : ClassRef) : Bool :=
  (t.linearization maker).all fun c =>
    match c with
    | .declared n => (((t.declared? n).map (·.own)).getD []).all fun a =>
      plainNames.contains a.1 || !(startsWith ['_', '_'] a.1 && endsWith ['_', '_'] a.1)
    | .builtin _ => true

/-- The method by which a class of classes has a say in the order in which a class and its ancestors
are looked at. -/
def orderName : Text := "mro"

/-- The order that a maker asks for when it makes the class `self`, if it has a say in it. -/
def orderBy (x : Execution) (maker self : ClassRef) : Attempt (Option (List Binding)) :=
  match x.table.declaredAttribute? maker orderName with
  | none => .ok none
  | some (.function { effect := .lists parameter names, .. }) =>
    some <$> names.mapM fun n => if n == parameter then .ok (.cls self) else x.simple n
  | some (.function { effect := .nothing, .. }) =>
    .error (.refused "'NoneType' object is not iterable")
  | some _ => .error .unknown

/-- Makes a class of other ones and binds it. Its form is settled before its maker is asked for the
order. -/
def makeBy (maker : ClassRef) (s : Surroundings) (name : Text) (bases : List ClassRef)
    (names : Layer) (x : Execution) : Action Execution := do
  let d : ClassDraft := { name, bases, names, maker? := some maker }
  if x.table.isOpen d then Logged.fail .unknown
  else
    let _ ← (x.table.formOf d).mapError Fault.classFault
    let order? ← { x with locals := none }.orderBy maker (.declared x.table.classes.length)
    let (table, self) ← (x.table.declare { d with order? }).mapError Fault.classFault
    let y := { x with table }
    y.tellAncestors self
    return y.bind (mangle s name) (.cls self)

/-- Makes a class or, if the bases are no classes, whatever is made of them, and binds it. -/
def makeClass (s : Surroundings) (name : Text) (given? : Option Binding) (bases : List Binding)
    (names : Layer) (x : Execution) : Action Execution := do
  let maker ← makerOf x.table given? bases
  if !isPlainMaker x.table maker then Logged.fail .unknown
  else if x.table.derivesFrom maker Builtin.metaclass then
    let refs := bases.filterMap fun b => match b with
      | .cls c => some c
      | _ => none
    makeBy maker s name refs names x
  else
    let made ← x.call (.cls maker) [.text name, .objectOf "tuple", .objectOf "dict"]
    return x.bind (mangle s name) made

/-! ## Exceptions -/

/-- The message of an exception of a class that was made with a text, where the text of exceptions
is as the built-in class says it. -/
def messageBy (x : Execution) (c : ClassRef) (owner message : Text) : Text :=
  let t := x.table
  let isDeclared := (t.declaredAttribute? c "__init__".toList).isSome
  let isPrepared := !isDeclared
    && (t.find? c "__init__".toList).any fun a => t.derivesFrom a.1 owner
  if owner == "KeyError".toList then message.quoted
  else if owner == "SyntaxError".toList && !isPrepared then "None"
  else if startsWith "Unicode".toList owner && !isPrepared then []
  else if owner == "OSError".toList && isDeclared then []
  else message

/-- The failure of raising an object of a class that is not meant to be caught. How a declared class
that is derived from the one to end the program does so is not known. -/
def endingObject (t : ClassTable) (c : ClassRef) (message : Text) : Fault :=
  let name := t.className c
  if c == .builtin "SystemExit" then .ending (.exit message)
  else if t.derivesFrom c "SystemExit".toList then .unknown
  else if t.derivesFrom c "KeyboardInterrupt".toList then .ending (.interrupt name)
  else .ending (.other name)

/-- The failure of raising an object of a class that was made with a text. -/
def raisedObject (x : Execution) (c : ClassRef) (message : Text) : Fault :=
  let t := x.table
  if !t.derivesFrom c "Exception".toList then endingObject t c message
  else if (t.declaredAttribute? c "__format__".toList).isSome then .unspeakable
  else
    let raised := Fault.raised (t.className c) (t.derivesFrom c "ImportError".toList)
    let named (owner : Text) : Fault := raised (x.messageBy c owner message)
    let shown : Fault :=
      if (t.declaredAttribute? c "__repr__".toList).isSome then .unspeakable
      else raised (t.className c ++ inParentheses [message.quoted])
    match t.find? c "__str__".toList with
    | some (.builtin owner, _) => named owner
    | some (.declared _, .cls (.builtin name)) =>
      if name == "str".toList then raised [] else .unspeakable
    | some (.declared _, .descriptor .operator owner name) =>
      if !t.derivesFrom c owner then .unspeakable
      else if owner == Builtin.object || name == "__repr__".toList then shown
      else named owner
    | _ => .unspeakable

/-- The failure of raising what was made with a text. -/
def raisedBy (x : Execution) (b : Binding) (message : Text) : Fault :=
  match b with
  | .object c _ =>
    if b.isUnknown then .unknown
    else if x.table.derivesFrom c Builtin.exception then x.raisedObject c message
    else .notAnException
  | _ => .notAnException

/-! ## Modules -/

/-- Finds a module among those that are known, in as many steps as `fuel`. The modules around a
module are found first, and none of them holds others than the known ones. -/
def findModule (known : Text → Bool) : Nat → Text → Attempt Unit
  | 0, name => .error (.noModule name)
  | fuel + 1, name =>
    if known name then .ok ()
    else
      match cutLast? '.' name with
      | some (parent@(_ :: _), _) => do
        findModule known fuel parent
        .error (.notPackage name parent)
      | _ => .error (.noModule name)

/-! ## Statements -/

/-- The name that the module knows itself by. -/
def moduleName (x : Execution) : Value :=
  match x.globals.lookup "__name__".toList with
  | some (.value v) => v
  | _ => .none

/-- A function that is defined among these surroundings. -/
def function (s : Surroundings) (x : Execution) (name : Text) (doc : Option Text) : Binding :=
  .function
    { name, qualifiedName := s.path ++ name, module := x.moduleName.text?.getD [], doc }

/-- What a second name is given to: what a dotted name stands for, or a function that lists what
names stand for. -/
def target (s : Surroundings) (x : Execution) (t : Text) : Action Binding :=
  match Item.listing? t with
  | some (parameter, names) =>
    pure (.function
      { name := "<lambda>", qualifiedName := s.path ++ "<lambda>"
        module := x.moduleName.text?.getD []
        effect := .lists (mangle s parameter) (names.map (mangle s)) })
  | none => x.dotted s t

mutual

/-- Carries a statement out. -/
def step (known : Text → Bool) (s : Surroundings) (x : Execution) : Item → Action Execution
  | .cls name bases doc body => do
    let bs ← (Item.basesOf bases).mapM fun n => x.dotted s (Item.qualifyBase n)
    let given? ← (Item.makerOf? bases).mapM (x.dotted s)
    let _ ← makerOf x.table given? bs
    let qualifiedName := s.path ++ name
    let inner : Surroundings := ⟨some name, qualifiedName ++ ['.']⟩
    let names ← firstNames { x with locals := none } qualifiedName (docOf doc body)
    let y ← steps known inner { x with locals := some names } body
    makeClass s name given? bs (y.locals.getD []) { y with locals := x.locals }
  | .function name doc decorators => do
    let ds ← decorators.mapM fun d => x.dotted s (Item.qualifyDecorator d)
    let b ← ds.reverse.foldlM (fun b d => x.call d [b]) (x.function s name doc)
    return x.bind (mangle s name) b
  | .lambda name => pure (x.bind (mangle s name) (x.function s "<lambda>" none))
  | .value name v => pure (x.bind (mangle s name) (.value v))
  | .rename name t => do return x.bind (mangle s name) (← x.target s t)
  | .comment _ => pure x
  | .text _ => pure x
  | .block body => steps known s x body
  | .raise exception message => do
    let b ← x.call (← x.dotted s exception) [.text message]
    .fail (x.raisedBy b message)
  | .load module => do
    findModule known (module.length + 1) module
    let first := ((splitOn '.' module).head?).getD []
    findModule known (first.length + 1) first
    return x.bind (mangle s first) (.module first)

/-- Carries statements out one after the other. -/
def steps (known : Text → Bool) (s : Surroundings) (x : Execution) :
    List Item → Action Execution
  | [] => pure x
  | i :: is => do steps known s (← step known s x i) is

end

/-! ## Whole modules -/

/-- Where a module comes from. -/
structure Origin where
  name : Text
  /-- The path of the file that the module says it was read from. -/
  file? : Option Text := none
  /-- Whether the module was read from that file. -/
  isRead : Bool := false

/-- The names that a module starts with. -/
def Origin.names (o : Origin) (doc : Option Text) : Layer :=
  let package := match cutLast? '.' o.name with
    | some (p, _) => p
    | none => []
  let read (b : Binding) : Binding := if o.isRead then b else .nothing
  let told : Layer := [
    ("__name__", .text o.name), ("__doc__", doc.elim .nothing .text),
    ("__package__", read (.text package)), ("__loader__", read (.objectOf "SourceFileLoader")),
    ("__spec__", read (.objectOf "ModuleSpec"))]
  let file : Layer := o.file?.elim [] fun f => [("__file__", .text f)]
  let cached : Layer := if o.isRead then [("__cached__", .objectOf "str")] else []
  let always : Layer :=
    [("__builtins__", .objectOf "dict"), ("abc", .module Builtin.abstractModule)]
  told ++ file ++ cached ++ always

/-- The failure of a module with a fault in its texts. -/
def malformed (o : Origin) (f : EscapeFault) : Fault :=
  let file := (o.file?.map fun f => (cutLast? '/' f).elim f Prod.snd).getD "<string>".toList
  .malformed ("(unicode error) " ++ f.fault.message ++ " (" ++ file ++ ", line " ++ ofNat f.line
    ++ [')'])

/-- Carries a module out behind others. -/
def run (known : Text → Bool) (before : Execution) (o : Origin) (m : SourceModule) :
    Action Execution :=
  match m.fault? with
  | some f => .fail (malformed o f)
  | none =>
    steps known {}
      { before with
        globals := o.names m.doc, callLimit := max before.callLimit m.toText.length }
      m.items

/-! ## Classes for testing -/

/-- What a special method of a thing yields, which was found in the class of the thing. -/
def special (x : Execution) (b raw : Binding) : Action Binding := do
  x.call (← x.table.take (some b) (x.table.classOf b) x.callLimit raw) []

/-- Whether what a name stands for counts as true: by what its class declares for this, or else by
what it declares to be its length. How many members an object of a built-in class has is not known,
and neither is which number an object is. -/
def isTrue (x : Execution) (b : Binding) : Action Bool :=
  match b with
  | .value v => pure v.isTruthy
  | b =>
    let c := x.table.classOf b
    match x.table.find? c "__bool__", x.table.find? c "__len__" with
    | none, none => if b.isUnknown then .fail .unknown else pure true
    | some (.declared _, raw), _ => do
      match ← x.special b raw with
      | .value (.bool holds) => return holds
      | r => .fail (.refused ("__bool__ should return bool, returned " ++ x.table.typeName r))
    | none, some (.declared _, raw) => do
      match ← x.special b raw with
      | .value (.bool holds) => return holds
      | .value (.int n) =>
        if n < 0 then .fail (.badValue "__len__() should return >= 0") else return n != 0
      | r =>
        if (x.table.find? (x.table.classOf r) "__index__").isSome then Logged.fail .unknown
        else
          .fail (.refused
            ('\'' :: x.table.typeName r ++ "' object cannot be interpreted as an integer".toList))
    | _, _ => .fail .unknown

/-- A doc comment as a text: empty if what is there counts as nothing, and nothing if it is no text
and has no tabs to expand. What comes of other things with tabs is not known. -/
def docText (x : Execution) (b : Binding) : Action (Option Text) := do
  if ← x.isTrue b then
    match b.text?, b with
    | some doc, _ => return some doc
    -- among plain values, only texts and bytes have tabs
    | none, .value v => if v.bytes?.isSome then Logged.fail .unknown else return none
    | none, b =>
      let tabs := x.attributeOf b "expandtabs".toList
      .after tabs.events <|
        match tabs.result with
        | .ok _ => .fail .unknown
        | .error f => if f.isAboutAttribute then pure none else .fail f
  else return some []

/-- Whether a function is marked as abstract. One without a mark is not. -/
def isMarked (x : Execution) (b : Binding) : Action Bool :=
  let mark := x.attributeOf b Builtin.abstractMark
  match mark.result with
  | .ok m => .after mark.events (x.isTrue m)
  | .error f =>
    .after mark.events (if f.isAboutAttribute then Pure.pure false else .fail f)

/-- What a function tells of itself: whether it is marked as abstract, and its doc comment. -/
def tellingOf (x : Execution) (b : Binding) : Action (Bool × Option Text) := do
  let isAbstract ← x.isMarked b
  return (isAbstract, ← x.docText (← x.attributeOf b Builtin.docName))

/-- What is known of the function of a method. -/
def describeFunction (x : Execution) (isStatic : Bool) (b : Binding) : MethodAttribute :=
  let telling := x.tellingOf b
  match telling.result with
  | .ok (isAbstract, doc) => { isStatic, isAbstract, doc, events := telling.events }
  | .error f =>
    { isStatic, isAbstract := false, doc := none, events := telling.events, fault? := some f }

/-- What is known of a method that cannot be asked. -/
def faulty (events : List Event) (f : Fault) : MethodAttribute :=
  { isStatic := false, isAbstract := false, doc := none, events, fault? := some f }

/-- What is known of the function inside of a method, where the method is asked for it. -/
def describeInner (x : Execution) (b : Binding) : MethodAttribute :=
  let inner := x.attributeOf b "__func__".toList
  match inner.result with
  | .ok f =>
    let m := x.describeFunction true f
    { m with events := inner.events ++ m.events }
  | .error f => faulty inner.events f

/-- What a thing says to be its class. What is no object of a declared class has no say in it. -/
def claimOf (x : Execution) (b : Binding) : Action (Option ClassRef) :=
  match b with
  | .object (.declared _) _ | .property (.declared _) .. =>
    let claim := x.attributeOf b "__class__".toList
    .after claim.events <|
      match claim.result with
      | .ok (.cls k) => pure (some k)
      | .ok _ => pure none
      | .error f => if f.isAboutAttribute then pure none else .fail f
  | _ => pure none

/-- What is known of an attribute if it is a method, or says to be one. How often an attribute is
asked for its class is up to the answers, so it is not known what comes of one that writes then. -/
def methodAttribute? (x : Execution) (b : Binding) : Option MethodAttribute :=
  match b with
  | .function _ => some (x.describeFunction false b)
  | .staticMethod (.builtin _) inner | .classMethod (.builtin _) inner =>
    some (x.describeFunction true inner)
  | .staticMethod .. | .classMethod .. => some (x.describeInner b)
  | b =>
    let claim := x.claimOf b
    if claim.events.isEmpty then
      match claim.result with
      | .ok (some k) =>
        if ["staticmethod", "classmethod"].any fun n => x.table.derivesFrom k n.toList then
          some (x.describeInner b)
        else if x.table.derivesFrom k "function".toList then some (x.describeFunction false b)
        else none
      | .ok none => none
      | .error f => some (faulty [] f)
    else some (faulty [] .unknown)

/-- The layer of a class. -/
def layerOf (x : Execution) (c : ClassRef) : MethodLayer :=
  let own : Layer := match c with
    | .declared n => ((x.table.declared? n).map (·.own)).getD []
    | .builtin name => Builtin.layer name
  own.map fun a => (a.1, x.methodAttribute? a.2)

/-- The doc comment that a class has itself. -/
def ownDoc (x : Execution) (c : ClassRef) : Action (Option Text) :=
  (x.table.own? Builtin.docName c).elim (pure (some [])) x.docText

/-- A class with the attributes that it has and inherits. The class above all others has none that
count. -/
def sourceClass (x : Execution) (c : ClassRef) : SourceClass where
  name := x.table.className c
  qualifiedName := x.table.qualifiedName c
  module? := match x.table.module c with
    | .value v => some v
    | _ => none
  doc := x.ownDoc c
  layers := (x.table.lineage c).map fun k => (k == c, x.layerOf k)

end Execution

end TestSkeleton
