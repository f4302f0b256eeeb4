import TestSkeleton.Check.Declaration
import TestSkeleton.Value.Collection
import TestSkeleton.Value.Order

set_option autoImplicit false

/-! # Comparing declared objects

Values are compared as in `Value.equal` and `Value.relate`, and so on, but an object whose class has
an attribute for an operator answers itself: by what a class that stands there makes of the other
value, or else by making the operator fail. Which of the two sides is asked first depends on their
classes. Inside of collections an object equals itself without being asked.

A set or a mapping finds a value by its hash first, and then by asking those of the same hash if
they are equal. Equal values have the same hash, but for objects whose class declares both.
-/

namespace TestSkeleton

open Text

/-- A kind of plain data, by which values of other classes are understood. -/
def Value.plainKind? : Value → Option PlainType
  | .bool _ | .int _ => some .int
  | .float _ => some .float
  | .complex .. => some .complex
  | .str _ => some .str
  | .bytes _ => some .bytes
  | .list _ => some .list
  | .tuple _ => some .tuple
  | .set _ => some .set
  | .frozenset _ => some .frozenset
  | .dict _ => some .dict
  | .object _ _ _ base => base
  | _ => Option.none

/-- Whether data of one kind can be compared with data of another one. -/
def PlainType.understands : PlainType → PlainType → Bool
  | .float, .int | .complex, .int | .complex, .float | .bytearray, .bytes
  | .set, .frozenset | .frozenset, .set => true
  | k, l => k == l

/-- Whether data of one kind has an order with data of another one. -/
def PlainType.ordersWith : PlainType → PlainType → Bool
  | .complex, _ | _, .complex | .dict, _ => false
  | k, l => k.understands l

namespace Declarations

/-! ## Truth and members -/

/-- Whether what stands in the place of a special method is a class that makes the number zero of
nothing: that of whole numbers, or one that is derived from it. -/
def makesZero (d : Declarations) : Binding → Bool
  | .cls c => d.table.derivesFrom c "int".toList
      && (d.table.call callLimit (.cls c) []).result.toOption.isSome
  | _ => false

/-- The misuse of something in the place of a special method that makes nothing of the right kind.
One class looks for the class around the caller. -/
def misplaced : Binding → Misuse
  | .cls (.builtin name) => if name == "super".toList then .unknown else .wrongType
  | _ => .wrongType

/-- Whether a value counts as true: an object is asked for its truth, or else for the number of its
members. A class in the place of the answer gives an empty value. -/
def isTruthy (d : Declarations) (v : Value) : Except Misuse Bool :=
  let c := d.classOf v
  match d.special? c "__bool__", d.special? c "__len__" with
  | some (.cls (.builtin name)), _ =>
    if name == "bool".toList then .ok false else .error (misplaced (.cls (.builtin name)))
  | some b, _ => .error (misplaced b)
  | none, some b =>
    if (d.table.find? c "__bool__".toList).isSome then .ok v.isTruthy
    else if d.makesZero b then .ok false
    else .error (misplaced b)
  | none, none => .ok v.isTruthy

/-- The number of members of a collection. -/
def size (d : Declarations) (v : Value) : Except Misuse Nat :=
  match d.special? (d.classOf v) "__len__", v.size? with
  | some b, _ => if d.makesZero b then .ok 0 else .error (misplaced b)
  | none, none => .error .wrongType
  | none, some n => .ok n

/-- Whether the class of an object is derived from the one of iterators over several collections.
As the object is made without arguments it has no members. -/
def isIterator (d : Declarations) : Value → Bool
  | .object _ c _ _ => d.table.derivesFrom c "zip".toList && (d.special? c "__next__").isNone
  | _ => false

/-- The members of a collection. A class in the place of the iterator gives an empty one. -/
def items (d : Declarations) (v : Value) : Except Misuse (List Value) :=
  match d.special? (d.classOf v) "__iter__" with
  | some (.cls c) =>
    if c == .builtin "zip" then .ok []
    else if (d.table.find? c "__next__".toList).isSome then .error .unknown
    else .error (misplaced (.cls c))
  | some _ => .error .wrongType
  | none =>
    match v.items? with
    | some vs => .ok vs
    | none => if d.isIterator v then .ok [] else .error .wrongType

/-- The attribute for the hash of an object, if a declared class has it. -/
def ownHash? (d : Declarations) : Value → Option Binding
  | .object _ c _ _ =>
    match d.table.find? c "__hash__".toList with
    | some (.declared _, b) => some b
    | _ => none
  | _ => none

mutual

/-- Whether a value can be a member of a set. -/
def isHashable (d : Declarations) : Value → Bool
  | .tuple vs => allHashable d vs
  | .object n c className base =>
    match d.ownHash? (.object n c className base) with
    | some b => d.makesZero b
    | none =>
      match d.table.find? c "__hash__".toList with
      | some (_, .value .none) => false
      | _ => true
  | v => v.isHashable

/-- Whether all values can be members of a set. -/
def allHashable (d : Declarations) : List Value → Bool
  | [] => true
  | v :: vs => isHashable d v && allHashable d vs

end

/-- The hash of a whole number is its remainder by this prime. -/
def hashModulus : Int := 2305843009213693951

/-- Whether the hash of a value is zero, as those of the number zero, of empty texts and of objects
are whose class says so. -/
def hashesToZero (d : Declarations) (v : Value) : Bool :=
  (d.ownHash? v).isSome || v.int?.any (· % hashModulus == 0)
    || v.equalsEmpty .int || v.equalsEmpty .str || v.equalsEmpty .bytes

mutual

/-- Whether two values have the same hash, if they are equal. -/
def sameHash (d : Declarations) : Value → Value → Bool
  | .tuple vs, .tuple ws => sameHashes d vs ws
  | v, w =>
    if (d.ownHash? v).isSome then d.hashesToZero w
    else if (d.ownHash? w).isSome then d.hashesToZero v
    else true

/-- Whether two rows of values have the same hashes, place by place. -/
def sameHashes (d : Declarations) : List Value → List Value → Bool
  | v :: vs, w :: ws => sameHash d v w && sameHashes d vs ws
  | _, _ => true

end

/-! ## Asking objects -/

/-- Whether the whole number that a text stands for is not zero. -/
def readIsNonzero (t : Text) : Except Misuse Bool :=
  match Number.int? 10 (Builtin.withoutSeparators t) with
  | some n => .ok (n != 0)
  | none => .error .wrongValue

/-- Whether the whole number that is made of a value is not zero. An object can be asked for one. -/
def wholeIsNonzero (d : Declarations) (v : Value) : Except Misuse Bool :=
  if ["__int__", "__index__", "__trunc__"].any fun o => (d.special? (d.classOf v) o).isSome then
    .error .unknown
  else
    match v with
    | .float x =>
      match x.toFraction? with
      | some (n, denominator) => .ok (denominator ≤ n.natAbs)
      | none => .error (if x == .nan then .wrongValue else .tooLarge)
    | .object _ _ _ (some .float) => .ok false
    | .object _ _ _ (some .bytearray) => .error .wrongValue
    | v =>
      match v.int?, v.text?, v.bytes? with
      | some n, _, _ => .ok (n != 0)
      | _, some t, _ => readIsNonzero t
      | _, _, some bs =>
        if bs.all (· < 0x80) then readIsNonzero (ofBytes bs) else .error .wrongValue
      | _, _, _ => .error .wrongType

/-- Whether what a class makes of a value counts as true, as far as it is known. -/
def madeIsTruthy (d : Declarations) (c : ClassRef) (v : Value) : Except Misuse Bool :=
  match c with
  | .builtin name =>
    match name.asString with
    | "bool" => d.isTruthy v
    | "int" => d.wholeIsNonzero v
    | "object" => .error .wrongType
    | "type" => .ok true
    | "str" => (d.textOf v).map fun t => !t.isEmpty
    | "list" | "tuple" => (d.items v).map fun vs => !vs.isEmpty
    | "zip" => (d.items v).map fun _ => true
    | "set" | "frozenset" =>
      -- a set is taken over as it is
      match v.members? with
      | some vs => .ok !vs.isEmpty
      | none => do
        let vs ← d.items v
        if vs.all d.isHashable then return !vs.isEmpty else throw .wrongType
    | _ => .error .unknown
  | .declared _ => .error .unknown

/-- The answer that an object gives itself if its class has an attribute for an operator, with the
other value `w`. -/
def answer? (d : Declarations) (operator : String) (v w : Value) : Option (Except Misuse Bool) :=
  match v with
  | .object _ c _ _ =>
    (d.special? c operator).map fun b =>
      match b with
      | .cls c => d.madeIsTruthy c w
      | _ => .error .wrongType
  | _ => none

/-- Whether the class of a value is derived from that of another one and is not the same. -/
def isDerived (d : Declarations) (v w : Value) : Bool :=
  d.classOf v != d.classOf w && d.table.isSubclass (d.classOf v) (d.classOf w)

/-- Whether the first of two values answers a question about the second, as plain data of some
kinds does. -/
def answers (knows : PlainType → PlainType → Bool) (v w : Value) : Bool :=
  match v.plainKind?, w.plainKind? with
  | some k, some l => knows k l
  | _, _ => false

/-- The answer that one of two objects gives itself: `asked` is what the first one answers, and
`answering` what the second one does. The second one is asked first if its class is derived from
that of the first one. Plain data that answers leaves nothing to ask the other one. -/
def ownAnswer? (d : Declarations) (knows : PlainType → PlainType → Bool)
    (asked answering : Value → Value → Option (Except Misuse Bool)) (v w : Value) :
    Option (Except Misuse Bool) :=
  if d.isDerived w v then
    (answering w v).orElse fun _ => if answers knows w v then none else asked v w
  else (asked v w).orElse fun _ => if answers knows v w then none else answering w v

/-- Whether two values are the same object or class. -/
def isIdentical (v w : Value) : Bool :=
  match v, w with
  | .object n _ _ _, .object m _ _ _ => n == m
  | .type c _, .type e _ => c == e
  | _, _ => false

/-! ## Equality -/

/-- What an object answers itself if it is asked if it differs from a value. One that is no plain
data is asked if it is equal. -/
def answerDiffers? (d : Declarations) (v w : Value) : Option (Except Misuse Bool) :=
  (d.answer? "__ne__" v w).orElse fun _ =>
    if v.plainKind?.isNone then (d.answer? "__eq__" v w).map fun r => r.map not else none

/-- The answer that one of two objects gives itself to whether they are equal, and the one to
whether they differ. -/
def equalAnswer? (d : Declarations) (v w : Value) : Option (Except Misuse Bool) :=
  d.ownAnswer? PlainType.understands (d.answer? "__eq__") (d.answer? "__eq__") v w
def differAnswer? (d : Declarations) (v w : Value) : Option (Except Misuse Bool) :=
  d.ownAnswer? PlainType.understands d.answerDiffers? d.answerDiffers? v w

mutual

/-- Whether two values are equal. -/
def equal (d : Declarations) (v w : Value) : Except Misuse Bool :=
  match d.equalAnswer? v w with
  | some r => r
  | none =>
    match v, w with
    | .list vs, .list ws => if vs.length == ws.length then equalItems d vs ws else .ok false
    | .tuple vs, .tuple ws => equalItems d vs ws
    | .set vs, .set ws | .set vs, .frozenset ws | .frozenset vs, .set ws
    | .frozenset vs, .frozenset ws =>
      if vs.length == ws.length then areFound d vs ws else .ok false
    | .dict es, .dict fs => if es.length == fs.length then equalEntries d es fs else .ok false
    | v, w => .ok (v.equal w)
termination_by (sizeOf v + sizeOf w, 0)

/-- Whether two rows of values are equal, found by comparing them up to the first difference. -/
def equalItems (d : Declarations) (vs ws : List Value) : Except Misuse Bool :=
  match vs, ws with
  | [], ws => .ok ws.isEmpty
  | _ :: _, [] => .ok false
  | v :: vs, w :: ws => do
    let isSame ← if isIdentical v w then pure true else equal d v w
    if isSame then equalItems d vs ws else return false
termination_by (sizeOf vs + sizeOf ws, 0)

/-- Whether a member of a set or a key of a mapping is what is looked for: the value itself, or one
of its hash that equals it. -/
def matchesKey (d : Declarations) (member v : Value) : Except Misuse Bool :=
  if isIdentical member v then .ok true
  else if d.sameHash member v then equal d member v
  else .ok false
termination_by (sizeOf member + sizeOf v, 1)

/-- Whether a value is found among the members of a set. -/
def isFound (d : Declarations) (v : Value) (members : List Value) : Except Misuse Bool :=
  match members with
  | [] => .ok false
  | w :: ws => do if ← matchesKey d w v then return true else isFound d v ws
termination_by (sizeOf v + sizeOf members, 0)

/-- Whether all values are found among the members of a set. -/
def areFound (d : Declarations) (vs members : List Value) : Except Misuse Bool :=
  match vs with
  | [] => .ok true
  | v :: vs => do if ← isFound d v members then areFound d vs members else return false
termination_by (sizeOf vs + sizeOf members, 0)

/-- Whether a value is the one that is found under a key. -/
def equalsEntry (d : Declarations) (k v : Value) (entries : List (Value × Value)) :
    Except Misuse Bool :=
  match entries with
  | [] => .ok false
  | (l, w) :: fs => do
    if ← matchesKey d l k then if isIdentical v w then return true else equal d v w
    else equalsEntry d k v fs
termination_by (sizeOf k + sizeOf v + sizeOf entries, 0)

/-- Whether each of the first entries is among the second. -/
def equalEntries (d : Declarations) (es fs : List (Value × Value)) : Except Misuse Bool :=
  match es with
  | [] => .ok true
  | (k, v) :: es => do if ← equalsEntry d k v fs then equalEntries d es fs else return false
termination_by (sizeOf es + sizeOf fs, 0)

end

/-- The members of a set with a new value, which is left out if it is found among them. -/
def addMember (d : Declarations) (members : List Value) (v : Value) : Except Misuse (List Value) := do
  if ← d.isFound v members then return members else return members ++ [v]

/-- The members of a set made from values. -/
def collectMembers (d : Declarations) (vs : List Value) : Except Misuse (List Value) :=
  vs.foldlM d.addMember []

/-- The entries with a new one: in the place of the one that is found under the key, whose key
stays, or at the end. -/
def setEntry (d : Declarations) (key value : Value) :
    List (Value × Value) → Except Misuse (List (Value × Value))
  | [] => .ok [(key, value)]
  | (k, v) :: es => do
    if ← d.matchesKey k key then return (k, value) :: es
    else return (k, v) :: (← setEntry d key value es)

/-- The entries of a mapping made from entries, of which later ones win. -/
def collectEntries (d : Declarations) (es : List (Value × Value)) :
    Except Misuse (List (Value × Value)) :=
  es.foldlM (fun kept e => d.setEntry e.1 e.2 kept) []

/-- Whether a set has no member that another one lacks, by what is left of it without the members of
the other one. If it is far larger, these are taken from it one by one, which always leaves some. -/
def leavesNothing (d : Declarations) (vs ws : List Value) : Except Misuse Bool :=
  if ws.length < vs.length / 4 then .ok false else d.areFound vs ws

/-- Whether two values differ. -/
def differ (d : Declarations) (v w : Value) : Except Misuse Bool :=
  match d.differAnswer? v w with
  | some r => r
  | none =>
    if d.fails v "__eq__" || d.fails w "__eq__" then .ok (!v.equal w) else (d.equal v w).map not

/-- Looks for the first difference between two rows of values. -/
def findDifference (d : Declarations) : List Value → List Value → Except Misuse Unit
  | v :: vs, w :: ws => do if ← d.differ v w then return else findDifference d vs ws
  | _, _ => .ok ()

/-- The classes of plain data, whose values are the same if they are equal. -/
def valueClasses : List String :=
  ["NoneType", "bool", "int", "float", "complex", "str", "bytes", "tuple", "list", "dict", "set",
    "frozenset"]

/-- Whether a value is what is expected: of the same class and equal if it is plain data, and else
the same object. -/
def same (d : Declarations) (expected actual : Value) : Except Misuse Bool := do
  if ← d.hasAnyClass expected valueClasses then
    if d.classOf actual == d.classOf expected then d.equal actual expected else return false
  else return isIdentical actual expected

/-- Whether a value is of a class that is given by its name, or an instance of what is given. The
name `None` stands for the class of that value. What is given can be an object that is a text, or
says to be one, and answers itself if it is equal to a name. -/
def isOfType (d : Declarations) (v expected : Value) : Except Misuse Bool := do
  if ← d.hasAnyClass expected ["str"] then
    if ← d.equal expected (.str "None") then return v matches .none
    (d.table.linearization (d.classOf v)).anyM fun c =>
      d.equal (.str (d.table.className c)) expected
  else d.isInstance v expected

/-! ## Order -/

/-- The attribute for a relation, and the one by which the other side is asked. -/
def orderOperators : OrderRelation → String × String
  | .less => ("__lt__", "__gt__")
  | .lessOrEqual => ("__le__", "__ge__")
  | .greater => ("__gt__", "__lt__")
  | .greaterOrEqual => ("__ge__", "__le__")

/-- Whether the relation holds between two sets: they are ordered by inclusion. -/
def relateSets (d : Declarations) (r : OrderRelation) (vs ws : List Value) : Except Misuse Bool :=
  match r with
  | .less => if vs.length < ws.length then d.areFound vs ws else .ok false
  | .lessOrEqual => if vs.length ≤ ws.length then d.areFound vs ws else .ok false
  | .greater => if ws.length < vs.length then d.areFound ws vs else .ok false
  | .greaterOrEqual => if ws.length ≤ vs.length then d.areFound ws vs else .ok false

mutual

/-- Whether the relation holds between two values. -/
def relate (d : Declarations) (r : OrderRelation) (v w : Value) : Except Misuse Bool :=
  let (operator, swapped) := orderOperators r
  match d.ownAnswer? PlainType.ordersWith (d.answer? operator) (d.answer? swapped) v w with
  | some answer => answer
  | none =>
    match v, w with
    | .list vs, .list ws | .tuple vs, .tuple ws => relateItems d r vs ws
    | .set vs, .set ws | .set vs, .frozenset ws | .frozenset vs, .set ws
    | .frozenset vs, .frozenset ws => d.relateSets r vs ws
    | v, w => v.relate r w

/-- Whether the relation holds between two rows of values: the first ones that differ decide, or
else the lengths. -/
def relateItems (d : Declarations) (r : OrderRelation) :
    List Value → List Value → Except Misuse Bool
  | [], ws => .ok (r.accepts (compare 0 ws.length))
  | _ :: _, [] => .ok (r.accepts .gt)
  | v :: vs, w :: ws => do
    let isSame ← if isIdentical v w then pure true else d.equal v w
    if isSame then relateItems d r vs ws else relate d r v w

end

/-! ## Membership -/

/-- Whether one of the members of a row is a value or equals it. -/
def isAnyOf (d : Declarations) (v : Value) : List Value → Except Misuse Bool
  | [] => .ok false
  | w :: ws => do
    let isSame ← if isIdentical w v then pure true else d.equal w v
    if isSame then return true else isAnyOf d v ws

/-- Whether a collection contains a value. A class in the place of the answer gives what it makes of
the value. -/
def contains (d : Declarations) (collection v : Value) : Except Misuse Bool :=
  match d.special? (d.classOf collection) "__contains__" with
  | some (.cls c) => d.madeIsTruthy c v
  | some _ => .error .wrongType
  | none =>
    match collection with
    | .list vs | .tuple vs => d.isAnyOf v vs
    | collection =>
      if collection.items?.isNone then do d.isAnyOf v (← d.items collection)
      else
        match collection.members?, collection.entries? with
        | some members, _ =>
          if d.isHashable v || v.isOpenSet then d.isFound v members else .error .wrongType
        | none, some entries =>
          if d.isHashable v then d.isFound v (entries.map Prod.fst) else .error .wrongType
        | none, none => collection.contains v

end Declarations

end TestSkeleton
