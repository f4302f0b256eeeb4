import Mathlib.Data.Nat.Find
import TestSkeleton.Proofs.MethodName

set_option autoImplicit false

/-! # Names without counters

A namer remembers the number of the last candidate that it gave out for a capitalized name, and goes
on behind it when the name comes again. It skips nothing by that: all candidates up to the number
are taken, be it by other methods (`CountsTaken`, which `CountsTaken.name` keeps up), so that the
first free candidate behind the number is the first free one at all (`name_eq_firstFree`). The names
given out are those of a namer without counters that starts from the bare name every time
(`names_eq_namesInTurn`).
-/

namespace TestSkeleton

/-! ## The first free candidate -/

/-- The number is that of a candidate for the name that is not taken. -/
def IsFree (used : List Text) (base : Text) (k : Nat) : Prop :=
  1 ≤ k ∧ nameCandidate base k ∉ used

instance (used : List Text) (base : Text) (k : Nat) : Decidable (IsFree used base k) :=
  decidable_of_iff (1 ≤ k ∧ used.contains (nameCandidate base k) = false) (by simp [IsFree])

theorem exists_isFree (used : List Text) (base : Text) : ∃ k, IsFree used base k := by
  by_contra hnone
  -- all candidates would be taken, so also one more of them than there are names
  have htaken : ∀ k, 0 < k → k ≤ 0 + (used.length + 1) → nameCandidate base k ∈ used := by
    intro k hk _
    by_contra hfree
    exact hnone ⟨k, hk, hfree⟩
  have := le_length_of_candidates_mem htaken
  omega

/-- The first candidate for a name that is not taken. -/
def firstFree (used : List Text) (base : Text) : Text :=
  nameCandidate base (Nat.find (exists_isFree used base))

/-- Names for methods in order. Each is the first candidate that is none of the earlier names. -/
def namesInTurn : List Text → List Text → List Text
  | _, [] => []
  | earlier, m :: ms =>
    let name := firstFree earlier (Text.capitalizeFirst m)
    name :: namesInTurn (name :: earlier) ms

namespace MethodNamer

/-! ## Remembered numbers -/

/-- All candidates up to the remembered number of a capitalized name are taken. -/
def CountsTaken (n : MethodNamer) : Prop :=
  ∀ base k, 1 ≤ k → k ≤ n.count base → nameCandidate base k ∈ n.used

theorem lt_search (used : List Text) (base : Text) (fuel k : Nat) :
    k < search used base fuel k := by
  induction fuel generalizing k with
  | zero => exact Nat.lt_succ_self k
  | succ fuel ih =>
      rw [search]
      split
      next => exact Nat.lt_of_succ_lt (ih (k + 1))
      next => exact Nat.lt_succ_self k

/-- The number of the candidate that a method is given. -/
def number (n : MethodNamer) (m : Text) : Nat :=
  search n.used (Text.capitalizeFirst m) n.used.length (n.count (Text.capitalizeFirst m))

theorem name_fst (n : MethodNamer) (m : Text) :
    (n.name m).1 = nameCandidate (Text.capitalizeFirst m) (n.number m) := rfl

theorem count_name (n : MethodNamer) (m base : Text) :
    (n.name m).2.count base
      = if base = Text.capitalizeFirst m then n.number m else n.count base := by
  show (List.lookup base ((Text.capitalizeFirst m, n.number m) :: n.counts)).getD 0 = _
  rw [List.lookup_cons]
  by_cases hbase : base = Text.capitalizeFirst m
  · simp [hbase]
  · have hne : (base == Text.capitalizeFirst m) = false := beq_eq_false_iff_ne.mpr hbase
    rw [if_neg hbase, hne]
    rfl

section CountsTaken

variable {n : MethodNamer}

theorem countsTaken_empty : CountsTaken empty := by
  intro base k hk hcount
  have hzero : empty.count base = 0 := rfl
  omega

/-- The numbers below that of the given name are those of taken candidates: the remembered ones, and
those that the search passes over. -/
theorem CountsTaken.mem_of_lt_number (h : n.CountsTaken) {m : Text} {k : Nat} (hk : 1 ≤ k)
    (hlt : k < n.number m) : nameCandidate (Text.capitalizeFirst m) k ∈ n.used := by
  by_cases hcount : k ≤ n.count (Text.capitalizeFirst m)
  · exact h _ k hk hcount
  · exact mem_of_lt_search (by omega) hlt

/-- **Giving out a name keeps the remembered numbers right.** -/
theorem CountsTaken.name (h : n.CountsTaken) (m : Text) : (n.name m).2.CountsTaken := by
  intro base k hk hcount
  rw [used_name, List.mem_cons]
  rw [count_name] at hcount
  split at hcount
  next hbase =>
    subst hbase
    rcases Nat.lt_or_eq_of_le hcount with hlt | rfl
    · exact Or.inr (h.mem_of_lt_number hk hlt)
    · exact Or.inl rfl
  next =>
    -- the numbers of other names stay, and no name is taken back
    exact Or.inr (h base k hk hcount)

/-- **The name is the first free candidate**, although the search starts behind the remembered
number. -/
theorem name_eq_firstFree (h : n.CountsTaken) (m : Text) :
    (n.name m).1 = firstFree n.used (Text.capitalizeFirst m) := by
  have hpos : 1 ≤ n.number m := Nat.lt_of_le_of_lt (Nat.zero_le _) (lt_search _ _ _ _)
  have hleast : Nat.find (exists_isFree n.used (Text.capitalizeFirst m)) = n.number m := by
    refine (Nat.find_eq_iff _).mpr ⟨⟨hpos, name_not_mem n m⟩, ?_⟩
    rintro k hlt ⟨hk, hfree⟩
    exact hfree (h.mem_of_lt_number hk hlt)
  rw [name_fst, firstFree, hleast]

theorem names_eq_of_countsTaken (h : n.CountsTaken) (ms : List Text) :
    (n.names ms).1 = namesInTurn n.used ms := by
  induction ms generalizing n with
  | nil => rfl
  | cons m ms ih =>
      -- the other methods are named by a namer that knows of the first name
      rw [names_cons, ih (h.name m), used_name, name_eq_firstFree h m]
      rfl

end CountsTaken

/-- **Counters change no name.** Each method is given the first candidate for its capitalized name
that was not given out before, whatever names were asked for in between. -/
theorem names_eq_namesInTurn (ms : List Text) : (empty.names ms).1 = namesInTurn [] ms :=
  names_eq_of_countsTaken countsTaken_empty ms

/-- The second candidate of one method is taken by another one. -/
example : (empty.names ["add2", "add", "add", "add2"]).1 = ["Add2", "Add", "Add3", "Add22"] := by
  decide

end MethodNamer

end TestSkeleton
