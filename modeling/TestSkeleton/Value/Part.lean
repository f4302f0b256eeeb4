import TestSkeleton.Value.Basic
import TestSkeleton.Number.Reading

set_option autoImplicit false

/-! # Collections inside of themselves

A collection may hold itself, or others that hold it, and many may hold one and the same. So the
collections of a document are kept by their numbers, and `Value.part` is the collection of a number.
For a text they are spread out: `Value.expanded` puts each collection in its place, down to those
that are met again inside of themselves.
-/

namespace TestSkeleton

/-- What the collections of a document hold, by their numbers. -/
abbrev Parts := Array Value

namespace Value

/-- The value itself, if it is given by its number. -/
def opened (parts : Parts) : Value → Value
  | part i _ => parts.getD i none
  | v => v

/-- The value with all collections in their places, but for those that are met again inside of
themselves. `path` are the numbers of the collections around it. Each collection adds to the path,
which `fuel` bounds. -/
def expandedIn (parts : Parts) : Nat → List Nat → Value → Value
  | fuel + 1, path, part i shown =>
    if path.contains i then part i shown
    else
      let inner := expandedIn parts fuel (i :: path)
      match parts.getD i none with
      | list vs => list (vs.map inner)
      | dict es => dict (es.map fun e => (e.1, inner e.2))
      | v => v
  | fuel + 1, path, tuple vs => tuple (vs.map (expandedIn parts fuel path))
  | _, _, v => v

/-- The value with all collections in their places. -/
def expanded (parts : Parts) (v : Value) : Value := expandedIn parts (2 * parts.size + 2) [] v

mutual

/-- Whether a value has a whole number in it that is too long to be written. -/
def hasLongNumber : Value → Bool
  | int n => Nat.pow 10 Number.maxDigits ≤ n.natAbs
  | list vs | tuple vs | set vs | frozenset vs => anyLongNumber vs
  | dict es => anyLongEntry es
  | _ => false

/-- Whether one of the values has a number in it that is too long. -/
def anyLongNumber : List Value → Bool
  | [] => false
  | v :: vs => hasLongNumber v || anyLongNumber vs

/-- Whether one of the entries has a number in it that is too long. -/
def anyLongEntry : List (Value × Value) → Bool
  | [] => false
  | (k, v) :: es => hasLongNumber k || hasLongNumber v || anyLongEntry es

end

end Value

end TestSkeleton
