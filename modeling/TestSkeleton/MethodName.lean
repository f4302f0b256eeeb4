import TestSkeleton.Text.Case

set_option autoImplicit false

/-! # Names of test methods

A test method is named for the method it tests, with a capital first letter. Names are numbered when
they repeat: `add` used three times yields `Add`, `Add2` and `Add3`. A numbered name that is taken
already, for a method called `add2` say, is passed over, so that no two names are equal.
-/

namespace TestSkeleton

/-- The `k`-th candidate for a name: the name itself, and then the name with its number. -/
def nameCandidate (base : Text) (k : Nat) : Text :=
  if k ≤ 1 then base else base ++ Text.ofNat k

/-- The names that have been given out so far. -/
structure MethodNamer where
  /-- For each capitalized name, the number of the last candidate given out. -/
  counts : List (Text × Nat) := []
  used : List Text := []
deriving DecidableEq, Repr

namespace MethodNamer

/-- No name has been given out. -/
def empty : MethodNamer := {}

/-- The number of the last candidate given out for a capitalized name. -/
def count (n : MethodNamer) (base : Text) : Nat := (n.counts.lookup base).getD 0

/-- The first number above `k` whose candidate is free, looking at `fuel` numbers behind the
next. -/
def search (used : List Text) (base : Text) : Nat → Nat → Nat
  | 0, k => k + 1
  | fuel + 1, k =>
    if nameCandidate base (k + 1) ∈ used then search used base fuel (k + 1) else k + 1

/-- Gives out a name for a method. The search passes over no more candidates than there are names
given out. -/
def name (n : MethodNamer) (method : Text) : Text × MethodNamer :=
  let base := Text.capitalizeFirst method
  let k := search n.used base n.used.length (n.count base)
  let candidate := nameCandidate base k
  (candidate, ⟨(base, k) :: n.counts, candidate :: n.used⟩)

/-- Gives out names for methods in order. -/
def names : MethodNamer → List Text → List Text × MethodNamer
  | n, [] => ([], n)
  | n, m :: ms =>
    let (c, n) := n.name m
    let (cs, n) := names n ms
    (c :: cs, n)

end MethodNamer

end TestSkeleton
