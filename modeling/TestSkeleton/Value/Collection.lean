import TestSkeleton.Value.Equality

set_option autoImplicit false

/-! # Values as collections

The members of a collection, their number, and whether a value is one of them. A text is a
collection of its characters, bytes are one of whole numbers, and a mapping is one of its keys.

Only values that cannot change can be members of a set or keys of a mapping. Asking a set or a
mapping for another value is a misuse, save that a set may be looked for in a set, as its frozen
twin.
-/

namespace TestSkeleton.Value

mutual

/-- Whether a value can be a member of a set. -/
def isHashable : Value → Bool
  | list _ | set _ | dict _ => false
  | object _ _ _ (some .list) | object _ _ _ (some .set) | object _ _ _ (some .dict)
  | object _ _ _ (some .bytearray) => false
  | tuple vs => allHashable vs
  | _ => true

/-- Whether all values can be members of a set. -/
def allHashable : List Value → Bool
  | [] => true
  | v :: vs => isHashable v && allHashable vs

end

/-- Whether a value is a set that can change. -/
def isOpenSet : Value → Bool
  | set _ | object _ _ _ (some .set) => true
  | _ => false

/-- The members of a collection in order, if the value is one. -/
def items? (v : Value) : Option (List Value) :=
  v.listItems?.orElse fun _ => v.tupleItems?.orElse fun _ => v.members?.orElse fun _ =>
    (v.entries?.map fun es => es.map Prod.fst).orElse fun _ =>
      (v.text?.map fun t => t.map fun c => str [c]).orElse fun _ =>
        v.bytes?.map fun bs => bs.map fun b => int b.toNat

/-- The number of members of a collection, if the value is one. -/
def size? (v : Value) : Option Nat := v.items?.map List.length

/-- The members of a list or a tuple, which have numbers. -/
def sequence? (v : Value) : Option (List Value) := v.listItems?.orElse fun _ => v.tupleItems?

/-- Whether one of the values is equal to `v`, if all have to be values that cannot change. -/
def isAmong (v : Value) (vs : List Value) : Except Misuse Bool :=
  if v.isHashable then .ok (vs.any v.equal) else .error .wrongType

/-- Whether a byte or a row of bytes occurs among bytes. -/
def occursInBytes (bs : List UInt8) (v : Value) : Except Misuse Bool :=
  match v.int?, v.bytes? with
  | some n, _ =>
    if 0 ≤ n && n < 256 then .ok (bs.any fun b => b.toNat == n.toNat) else .error .wrongValue
  | _, some cs => .ok (Text.occursIn (Text.ofBytes cs) (Text.ofBytes bs))
  | _, _ => .error .wrongType

/-- Whether a collection contains a value; a text contains its parts. -/
def contains (collection v : Value) : Except Misuse Bool :=
  match collection.sequence?, collection.members?, collection.entries?, collection.text?,
    collection.bytes? with
  | some vs, _, _, _, _ => .ok (vs.any v.equal)
  | _, some vs, _, _, _ => if v.isOpenSet then .ok (vs.any v.equal) else v.isAmong vs
  | _, _, some es, _, _ => v.isAmong (es.map Prod.fst)
  | _, _, _, some t, _ =>
    match v.text? with
    | some s => .ok (Text.occursIn s t)
    | Option.none => .error .wrongType
  | _, _, _, _, some bs => occursInBytes bs v
  | _, _, _, _, _ => .error .wrongType

end TestSkeleton.Value
