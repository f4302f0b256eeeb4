import TestSkeleton.Value.Equality

set_option autoImplicit false

/-! # Order of values

Real numbers are ordered by value, texts and bytes like words in a dictionary, and so are lists and
tuples, by the first members that are not equal. Sets are ordered by inclusion, so that of two sets
neither may come before the other. Other values, and values of different kinds, have no order.
-/

namespace TestSkeleton

/-- A question about the order of two values. -/
inductive OrderRelation where
  | less | lessOrEqual | greater | greaterOrEqual
deriving DecidableEq, Repr

/-- Whether the answer is yes for things that compare like this. -/
def OrderRelation.accepts : OrderRelation → Ordering → Bool
  | less, o => o == .lt
  | lessOrEqual, o => o != .gt
  | greater, o => o == .gt
  | greaterOrEqual, o => o != .lt

namespace Value

/-- The real number that a value is. -/
def real? : Value → Option RealNumber
  | bool b => some (.whole b.toNat)
  | int n => some (.whole n)
  | float x => some (.binary x)
  | object _ _ _ (some .int) | object _ _ _ (some .float) => some (.whole 0)
  | _ => Option.none

/-- Whether the relation holds between two sets: they are ordered by inclusion. -/
def relateSets (r : OrderRelation) (vs ws : List Value) : Bool :=
  match r with
  | .less => vs.length < ws.length && allIn vs ws
  | .lessOrEqual => allIn vs ws
  | .greater => ws.length < vs.length && allIn ws vs
  | .greaterOrEqual => allIn ws vs

/-- Whether the relation holds between values that are not made of others. -/
def relateSimple (r : OrderRelation) (v w : Value) : Except Misuse Bool :=
  match v.real?, w.real? with
  | some x, some y => .ok ((x.compare? y).any r.accepts)
  | _, _ =>
    match v.text?, w.text? with
    | some s, some t => .ok (r.accepts (compare s t))
    | _, _ =>
      match v.bytes?, w.bytes? with
      | some s, some t => .ok (r.accepts (compare s t))
      | _, _ =>
        match v.members?, w.members? with
        | some vs, some ws => .ok (relateSets r vs ws)
        | _, _ => .error .wrongType

mutual

/-- Whether the relation holds between two values. -/
def relate (r : OrderRelation) : Value → Value → Except Misuse Bool
  | list vs, w => match w.listItems? with
    | some ws => relateItems r vs ws
    | Option.none => .error .wrongType
  | tuple vs, w => match w.tupleItems? with
    | some ws => relateItems r vs ws
    | Option.none => .error .wrongType
  | object n c k (some .list), w => match w.listItems? with
    | some ws => .ok (r.accepts (compare 0 ws.length))
    | Option.none => relateSimple r (object n c k (some .list)) w
  | object n c k (some .tuple), w => match w.tupleItems? with
    | some ws => .ok (r.accepts (compare 0 ws.length))
    | Option.none => relateSimple r (object n c k (some .tuple)) w
  | v, w => relateSimple r v w

/-- Whether the relation holds between two rows of values: the first ones that differ decide, or
else the lengths. -/
def relateItems (r : OrderRelation) : List Value → List Value → Except Misuse Bool
  | [], ws => .ok (r.accepts (compare 0 ws.length))
  | _ :: _, [] => .ok (r.accepts .gt)
  | v :: vs, w :: ws => if v.equal w then relateItems r vs ws else relate r v w

end

end Value

end TestSkeleton
