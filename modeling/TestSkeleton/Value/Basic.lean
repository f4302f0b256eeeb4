import TestSkeleton.Calendar
import TestSkeleton.Number.Binary64

set_option autoImplicit false

/-! # Values

The values that class descriptions are made of and that generated tests compare: plain data, and
for tests also types and objects, which have an identity. Sets and mappings keep the order in which
their members were added.
-/

namespace TestSkeleton

/-- A class: one that the language has, or the one of this number among those that a program
declares. -/
inductive ClassRef where
  | builtin (name : Text)
  | declared (number : Nat)
deriving DecidableEq, Repr

/-- The types of plain data that a declared class can be derived from. -/
inductive PlainType where
  | int | float | complex | str | bytes | bytearray | list | tuple | set | frozenset | dict
deriving DecidableEq, Repr

/-- A value. -/
inductive Value where
  | none
  | bool (b : Bool)
  | int (n : Int)
  | float (x : Binary64)
  | complex (re im : Binary64)
  | str (t : Text)
  | bytes (bs : List UInt8)
  | list (items : List Value)
  | tuple (items : List Value)
  | set (members : List Value)
  | frozenset (members : List Value)
  | dict (entries : List (Value × Value))
  | date (d : Date)
  | moment (m : Moment)
  /-- A class, with the title that its text shows. -/
  | type (c : ClassRef) (title : Text)
  /-- The object of this name; two objects of one name are the same object. If its class is derived
  from a type of plain data, the object also is the empty or zero value of that type. -/
  | object (name : Text) (c : ClassRef) (className : Text) (base : Option PlainType)
  /-- The collection of this number in a document; `shown` stands for it inside of itself. -/
  | part (number : Nat) (shown : Text)

/-- Why an operation on values cannot be carried out. -/
inductive Misuse where
  | wrongType
  | wrongValue
  | noSuchAttribute
  | malformedPattern
  | tooLarge
  /-- It is not known here what comes of the operation. -/
  | unknown
deriving DecidableEq, Repr

namespace PlainType

/-- The types of plain data with their names. -/
def names : List (Text × PlainType) := [
  ("int", int), ("float", float), ("complex", complex), ("str", str), ("bytes", bytes),
  ("bytearray", bytearray), ("list", list), ("tuple", tuple), ("set", set),
  ("frozenset", frozenset), ("dict", dict)]

/-- The type of plain data of this name. -/
def ofName? (name : Text) : Option PlainType := names.lookup name

end PlainType

namespace Value

/-- The name of the type that a value has. -/
def typeName : Value → Text
  | none => "NoneType"
  | bool _ => "bool"
  | int _ => "int"
  | float _ => "float"
  | complex .. => "complex"
  | str _ => "str"
  | bytes _ => "bytes"
  | list _ => "list"
  | tuple _ => "tuple"
  | set _ => "set"
  | frozenset _ => "frozenset"
  | dict _ => "dict"
  | date _ => "date"
  | moment _ => "datetime"
  | type .. => "type"
  | object _ _ className _ => className
  | part .. => "list"

/-- The class that a value has. -/
def classOf : Value → ClassRef
  | object _ c _ _ => c
  | v => .builtin v.typeName

/-- The value under a text key. -/
def field? (entries : List (Value × Value)) (key : Text) : Option Value :=
  entries.findSome? fun
    | (str k, v) => if k == key then some v else Option.none
    | _ => Option.none

/-- The entries with a new value under a text key: in the place of the old value, or at the end. -/
def setField (key : Text) (value : Value) : List (Value × Value) → List (Value × Value)
  | [] => [(str key, value)]
  | (str k, v) :: es =>
    if k == key then (str k, value) :: es else (str k, v) :: setField key value es
  | e :: es => e :: setField key value es

/-- The entries without those under a text key. -/
def dropField (key : Text) (entries : List (Value × Value)) : List (Value × Value) :=
  entries.filter fun
    | (str k, _) => k != key
    | _ => true

/-- Whether a value counts as true: all do but the empty and zero ones. -/
def isTruthy : Value → Bool
  | none => false
  | bool b => b
  | int n => n != 0
  | float x => !x.isZero
  | complex re im => !(re.isZero && im.isZero)
  | str t => !t.isEmpty
  | bytes bs => !bs.isEmpty
  | list vs | tuple vs | set vs | frozenset vs => !vs.isEmpty
  | dict es => !es.isEmpty
  | object _ _ _ base => base.isNone
  | _ => true

/-! ## Views

What a value is as data of one type, whether it is that data or an object of a derived class. -/

/-- The text that a value is. -/
def text? : Value → Option Text
  | str t => some t
  | object _ _ _ (some .str) => some []
  | _ => Option.none

/-- The bytes that a value is. -/
def bytes? : Value → Option (List UInt8)
  | bytes bs => some bs
  | object _ _ _ (some .bytes) | object _ _ _ (some .bytearray) => some []
  | _ => Option.none

/-- The bytes that a value is, if they cannot change. -/
def fixedBytes? : Value → Option (List UInt8)
  | object _ _ _ (some .bytearray) => Option.none
  | v => v.bytes?

/-- The whole number that a value is; a boolean is zero or one. -/
def int? : Value → Option Int
  | bool b => some b.toNat
  | int n => some n
  | object _ _ _ (some .int) => some 0
  | _ => Option.none

/-- The members of the list that a value is. -/
def listItems? : Value → Option (List Value)
  | list vs => some vs
  | object _ _ _ (some .list) => some []
  | _ => Option.none

/-- The members of the tuple that a value is. -/
def tupleItems? : Value → Option (List Value)
  | tuple vs => some vs
  | object _ _ _ (some .tuple) => some []
  | _ => Option.none

/-- The members of the set of either kind that a value is. -/
def members? : Value → Option (List Value)
  | set vs | frozenset vs => some vs
  | object _ _ _ (some .set) | object _ _ _ (some .frozenset) => some []
  | _ => Option.none

/-- The entries of the mapping that a value is. -/
def entries? : Value → Option (List (Value × Value))
  | dict es => some es
  | object _ _ _ (some .dict) => some []
  | _ => Option.none

/-- Whether a value is the object of this name. -/
def isObject (name : Text) : Value → Bool
  | object n _ _ _ => n == name
  | _ => false

end Value

end TestSkeleton
