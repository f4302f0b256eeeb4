import TestSkeleton.Value.Basic

set_option autoImplicit false

/-! # Equality of values

Values are equal if they have the same content. Numbers are compared by value whatever their types,
a boolean counting as the number zero or one; a list never equals a tuple; a set equals a frozen
set with the same members; mappings are equal whatever the order of their entries. Types equal only
themselves, and so do objects, unless their class is derived from a type of plain data: such an
object also equals what the empty value of that type equals.
-/

namespace TestSkeleton

/-- A real number: whole, or of the binary format. -/
inductive RealNumber where
  | whole (n : Int)
  | binary (x : Binary64)
deriving DecidableEq, Repr

namespace RealNumber

/-- How two numbers compare by value; nothing if one of them is not a number. -/
def compare? : RealNumber → RealNumber → Option Ordering
  | whole m, whole n => some (compare m n)
  | whole m, binary y => (y.compareInt? m).map Ordering.swap
  | binary x, whole n => x.compareInt? n
  | binary x, binary y => x.compare? y

/-- Whether two numbers are equal by value. -/
def equal (x y : RealNumber) : Bool := compare? x y == some .eq

end RealNumber

namespace Value

/-- The real and the imaginary part of the number that a value is. -/
def parts? : Value → Option (RealNumber × RealNumber)
  | bool b => some (.whole b.toNat, .whole 0)
  | int n => some (.whole n, .whole 0)
  | float x => some (.binary x, .whole 0)
  | complex re im => some (.binary re, .binary im)
  | object _ _ _ (some .int) | object _ _ _ (some .float) | object _ _ _ (some .complex) =>
    some (.whole 0, .whole 0)
  | _ => Option.none

/-- Whether two values are numbers and equal as such. -/
def equalNumbers (v w : Value) : Bool :=
  match v.parts?, w.parts? with
  | some p, some q => p.1.equal q.1 && p.2.equal q.2
  | _, _ => false

/-- Whether a value equals the empty or zero value of a type. -/
def equalsEmpty (w : Value) : PlainType → Bool
  | .int | .float | .complex => equalNumbers (int 0) w
  | .str => w.text? == some []
  | .bytes | .bytearray => w.bytes? == some []
  | .list => w.listItems?.any List.isEmpty
  | .tuple => w.tupleItems?.any List.isEmpty
  | .set | .frozenset => w.members?.any List.isEmpty
  | .dict => w.entries?.any List.isEmpty

mutual

/-- Whether two values are equal. -/
def equal : Value → Value → Bool
  | none, none => true
  | str s, w => w.text? == some s
  | bytes s, w => w.bytes? == some s
  | list vs, w => match w.listItems? with
    | some ws => equalAll vs ws
    | Option.none => false
  | tuple vs, w => match w.tupleItems? with
    | some ws => equalAll vs ws
    | Option.none => false
  | set vs, w => match w.members? with
    | some ws => vs.length == ws.length && allIn vs ws
    | Option.none => false
  | frozenset vs, w => match w.members? with
    | some ws => vs.length == ws.length && allIn vs ws
    | Option.none => false
  | dict es, w => match w.entries? with
    | some fs => es.length == fs.length && entriesIn es fs
    | Option.none => false
  | date d, date e => d == e
  | moment m, moment n => m.isSame n
  | type c _, type d _ => c == d
  | object n _ _ base, w => w.isObject n || base.any w.equalsEmpty
  | v, w => equalNumbers v w

/-- Whether two lists of values are equal member by member. -/
def equalAll : List Value → List Value → Bool
  | [], [] => true
  | v :: vs, w :: ws => equal v w && equalAll vs ws
  | _, _ => false

/-- Whether each of the first values equals one of the second. -/
def allIn : List Value → List Value → Bool
  | [], _ => true
  | v :: vs, ws => ws.any (fun w => equal v w) && allIn vs ws

/-- Whether each of the first entries is among the second. -/
def entriesIn : List (Value × Value) → List (Value × Value) → Bool
  | [], _ => true
  | (k, v) :: es, fs => fs.any (fun f => equal k f.1 && equal v f.2) && entriesIn es fs

end

/-- The members of a set made from values: of equal ones, the first. -/
def distinct (vs : List Value) : List Value :=
  vs.foldl (fun kept v => if kept.any v.equal then kept else kept ++ [v]) []

/-- The entries with a new one: in the place of the entry with an equal key, whose key stays, or at
the end. -/
def setEntry (key value : Value) : List (Value × Value) → List (Value × Value)
  | [] => [(key, value)]
  | e :: es => if key.equal e.1 then (e.1, value) :: es else e :: setEntry key value es

/-- The entries of a mapping made from entries, of which later ones win. -/
def collectEntries (es : List (Value × Value)) : List (Value × Value) :=
  es.foldl (fun kept e => setEntry e.1 e.2 kept) []

end Value

end TestSkeleton
