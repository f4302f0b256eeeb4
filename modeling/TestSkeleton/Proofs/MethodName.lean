import Mathlib.Data.List.Nodup
import Mathlib.Data.List.Perm.Subperm
import TestSkeleton.MethodName

set_option autoImplicit false

/-! # Method names are fresh

The candidates for a name are pairwise different, so among one more of them than there are names
given out, one is free. Hence the bounded search of `MethodNamer.name` always ends at a free
candidate (`search_not_mem`), and names that one namer gives out in a row differ from each other and
from all names before (`names_nodup`, `names_not_mem`).
-/

namespace TestSkeleton

/-! ## Candidates -/

theorem Text.ofNat_injective {m n : Nat} (h : Text.ofNat m = Text.ofNat n) : m = n := by
  have hread := congrArg (fun digits => Nat.ofDigitChars 10 digits 0) h
  simpa [Text.ofNat] using hread

theorem Text.ofNat_ne_nil (n : Nat) : Text.ofNat n ≠ [] := Nat.toDigits_ne_nil

@[simp] theorem nameCandidate_one (base : Text) : nameCandidate base 1 = base := rfl

theorem nameCandidate_of_lt (base : Text) {k : Nat} (h : 1 < k) :
    nameCandidate base k = base ++ Text.ofNat k := by
  rw [nameCandidate, if_neg (by omega)]

/-- The candidates for one name differ: the first is a proper start of all others, and these end in
different numbers. -/
theorem nameCandidate_injective {base : Text} {k l : Nat} (hk : 1 ≤ k) (hl : 1 ≤ l)
    (h : nameCandidate base k = nameCandidate base l) : k = l := by
  rcases Nat.lt_or_eq_of_le hk with hk | rfl <;> rcases Nat.lt_or_eq_of_le hl with hl | rfl
  · rw [nameCandidate_of_lt base hk, nameCandidate_of_lt base hl] at h
    exact Text.ofNat_injective (List.append_cancel_left h)
  · rw [nameCandidate_of_lt base hk, nameCandidate_one] at h
    exact absurd (List.append_right_eq_self.mp h) (Text.ofNat_ne_nil k)
  · rw [nameCandidate_of_lt base hl, nameCandidate_one] at h
    exact absurd (List.append_right_eq_self.mp h.symm) (Text.ofNat_ne_nil l)
  · rfl

/-- As many candidates in a row as are all taken, so many names have been given out. -/
theorem le_length_of_candidates_mem {used : List Text} {base : Text} {k n : Nat}
    (h : ∀ i, k < i → i ≤ k + n → nameCandidate base i ∈ used) : n ≤ used.length := by
  let taken := (List.range n).map fun i => nameCandidate base (k + 1 + i)
  have hnodup : taken.Nodup := by
    refine List.Nodup.map_on (fun i _ j _ hij => ?_) List.nodup_range
    have := nameCandidate_injective (by omega) (by omega) hij
    omega
  have hsub : taken ⊆ used := by
    intro t ht
    obtain ⟨i, hi, rfl⟩ := List.mem_map.mp ht
    rw [List.mem_range] at hi
    exact h _ (by omega) (by omega)
  have hle := (hnodup.subperm hsub).length_le
  simpa [taken] using hle

/-! ## The search -/

namespace MethodNamer

/-- Every candidate that the search passes over is taken. -/
theorem mem_of_lt_search {used : List Text} {base : Text} {fuel k i : Nat} (hk : k < i)
    (hi : i < search used base fuel k) : nameCandidate base i ∈ used := by
  induction fuel generalizing k with
  | zero => rw [search] at hi; omega
  | succ fuel ih =>
      rw [search] at hi
      split at hi
      next hmem =>
        by_cases heq : i = k + 1
        · rw [heq]; exact hmem
        · exact ih (by omega) hi
      next => omega

/-- The search ends at a free candidate, or at the first one it may no longer look at. -/
theorem search_not_mem_or (used : List Text) (base : Text) (fuel k : Nat) :
    nameCandidate base (search used base fuel k) ∉ used
      ∨ search used base fuel k = k + fuel + 1 := by
  induction fuel generalizing k with
  | zero => exact Or.inr rfl
  | succ fuel ih =>
      rw [search]
      split
      next =>
        rcases ih (k + 1) with hfree | hlast
        · exact Or.inl hfree
        · exact Or.inr (by omega)
      next hfree => exact Or.inl hfree

/-- **The search ends at a free candidate**: were all of those it looks at taken, and the one behind
them too, more names would have been given out than there are. -/
theorem search_not_mem (used : List Text) (base : Text) (k : Nat) :
    nameCandidate base (search used base used.length k) ∉ used := by
  rcases search_not_mem_or used base used.length k with hfree | hlast
  · exact hfree
  · intro hmem
    have hall : ∀ i, k < i → i ≤ k + (used.length + 1) → nameCandidate base i ∈ used := by
      intro i hki hi
      by_cases heq : i = k + used.length + 1
      · rw [heq, ← hlast]; exact hmem
      · exact mem_of_lt_search hki (by rw [hlast]; omega)
    have := le_length_of_candidates_mem hall
    omega

/-! ## Names in a row -/

theorem name_not_mem (n : MethodNamer) (m : Text) : (n.name m).1 ∉ n.used :=
  search_not_mem n.used (Text.capitalizeFirst m) (n.count (Text.capitalizeFirst m))

theorem used_name (n : MethodNamer) (m : Text) :
    (n.name m).2.used = (n.name m).1 :: n.used := rfl

@[simp] theorem names_nil (n : MethodNamer) : n.names [] = ([], n) := rfl

@[simp] theorem names_cons (n : MethodNamer) (m : Text) (ms : List Text) :
    n.names (m :: ms)
      = ((n.name m).1 :: ((n.name m).2.names ms).1, ((n.name m).2.names ms).2) := rfl

/-- Names for more methods: the namer goes on where it stopped. -/
theorem names_append (n : MethodNamer) (ms ms' : List Text) :
    n.names (ms ++ ms')
      = ((n.names ms).1 ++ ((n.names ms).2.names ms').1, ((n.names ms).2.names ms').2) := by
  induction ms generalizing n with
  | nil => rfl
  | cons m ms ih => simp [ih]

@[simp] theorem length_names (n : MethodNamer) (ms : List Text) :
    (n.names ms).1.length = ms.length := by
  induction ms generalizing n with
  | nil => rfl
  | cons m ms ih => simp [ih]

theorem names_not_mem (n : MethodNamer) (ms : List Text) :
    ∀ t ∈ (n.names ms).1, t ∉ n.used := by
  induction ms generalizing n with
  | nil => simp
  | cons m ms ih =>
      intro t ht
      rw [names_cons] at ht
      rcases List.mem_cons.mp ht with rfl | ht
      · exact name_not_mem n m
      · have hlater := ih (n.name m).2 t ht
        rw [used_name] at hlater
        exact fun hmem => hlater (List.mem_cons_of_mem _ hmem)

/-- **Names given out in a row are pairwise different.** -/
theorem names_nodup (n : MethodNamer) (ms : List Text) : (n.names ms).1.Nodup := by
  induction ms generalizing n with
  | nil => simp
  | cons m ms ih =>
      rw [names_cons, List.nodup_cons]
      refine ⟨fun hmem => ?_, ih (n.name m).2⟩
      exact names_not_mem (n.name m).2 ms _ hmem (by rw [used_name]; exact List.mem_cons_self)

end MethodNamer

end TestSkeleton
