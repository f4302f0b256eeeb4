set_option autoImplicit false

/-! # Linearization

The order in which a class and its ancestors are looked at keeps the order of each class before its
bases and the order of the bases among themselves. It is found by merging the orders of the bases:
at each step the first head that is in no tail is taken; if there is none, no order exists.
-/

namespace TestSkeleton.Linearization

variable {α : Type} [DecidableEq α]

/-- The heads of the lists, each once. -/
def heads (ls : List (List α)) : List α := (ls.filterMap List.head?).eraseDups

/-- The first head that is in no tail. -/
def next? (ls : List (List α)) : Option α :=
  (ls.filterMap List.head?).find? fun a => ls.all fun l => !(l.tail.contains a)

/-- The lists without `a` where it is the head. -/
def dropHead (a : α) (ls : List (List α)) : List (List α) :=
  ls.map fun l => if l.head? = some a then l.tail else l

/-- Merges lists in as many steps as `fuel`. If this is impossible, yields the heads that it stops
at. -/
def mergeSteps : Nat → List (List α) → Except (List α) (List α)
  | 0, _ => .ok []
  | fuel + 1, ls =>
    if ls.all List.isEmpty then .ok []
    else
      match next? ls with
      | none => .error (heads ls)
      | some a => (mergeSteps fuel (dropHead a ls)).map (a :: ·)

/-- Merges lists. Each step takes at least one member away. -/
def merge (ls : List (List α)) : Except (List α) (List α) :=
  mergeSteps (ls.flatten.length + 1) ls

end TestSkeleton.Linearization
