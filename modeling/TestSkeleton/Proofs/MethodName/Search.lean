import TestSkeleton.Proofs.MethodName.Numbering

set_option autoImplicit false

/-! # The loop for a free name ends

A namer looks for a free candidate in a loop that has no bound of its own: it counts on from the
remembered number until a candidate is not taken. `SearchEnds` says what this loop does, one pass
after the other. All passes but the last one meet different names that were given out, so there is
at most one pass more than there are such names (`SearchEnds.passes_le`). The search with a bound,
by which a namer is defined, is this loop (`searchEnds_search`, `SearchEnds.eq_search`), and so
every name ends the loop in time (`search_ends`).
-/

namespace TestSkeleton

namespace MethodNamer

/-! ## The loop -/

/-- The loop for a free candidate, which starts behind a number, ends at another one after so many
passes. Each pass looks at the next candidate. -/
inductive SearchEnds (used : List Text) (base : Text) : Nat → Nat → Nat → Prop where
  /-- The candidate is free. -/
  | free {k : Nat} (h : nameCandidate base (k + 1) ∉ used) : SearchEnds used base k 1 (k + 1)
  /-- The candidate is taken, and the loop goes on behind it. -/
  | taken {k passes l : Nat} (h : nameCandidate base (k + 1) ∈ used)
    (hrest : SearchEnds used base (k + 1) passes l) : SearchEnds used base k (passes + 1) l

section SearchEnds

variable {used : List Text} {base : Text} {k l passes : Nat}

/-- Each pass counts on by one. -/
theorem SearchEnds.end_eq (h : SearchEnds used base k passes l) : l = k + passes := by
  induction h with
  | free h => rfl
  | taken h hrest ih => omega

theorem SearchEnds.not_mem (h : SearchEnds used base k passes l) :
    nameCandidate base l ∉ used := by
  induction h with
  | free h => exact h
  | taken h hrest ih => exact ih

theorem SearchEnds.mem_of_lt (h : SearchEnds used base k passes l) {i : Nat} (hki : k < i)
    (hil : i < l) : nameCandidate base i ∈ used := by
  induction h with
  | free h => omega
  | @taken k passes l h hrest ih =>
      by_cases heq : i = k + 1
      · rw [heq]
        exact h
      · exact ih (by omega) hil

/-- **One pass more than there are names**: every pass but the last one meets a name of its own. -/
theorem SearchEnds.passes_le (h : SearchEnds used base k passes l) :
    passes ≤ used.length + 1 := by
  have hend := h.end_eq
  have htaken : ∀ i, k < i → i ≤ k + (passes - 1) → nameCandidate base i ∈ used := by
    intro i hki hi
    exact h.mem_of_lt hki (by omega)
  have := le_length_of_candidates_mem htaken
  omega

/-- The loop ends at the first free candidate. -/
theorem exists_searchEnds (hkl : k < l) (hfree : nameCandidate base l ∉ used)
    (htaken : ∀ i, k < i → i < l → nameCandidate base i ∈ used) :
    ∃ passes, SearchEnds used base k passes l := by
  obtain ⟨d, rfl⟩ := Nat.exists_eq_add_of_lt hkl
  -- on the number of candidates in front of the free one
  induction d generalizing k with
  | zero => exact ⟨1, .free hfree⟩
  | succ d ih =>
      have hnext : k + (d + 1) + 1 = k + 1 + d + 1 := by omega
      rw [hnext] at hfree htaken ⊢
      obtain ⟨passes, hrest⟩ := ih (by omega) hfree fun i hi => htaken i (by omega)
      exact ⟨passes + 1, .taken (htaken (k + 1) (by omega) (by omega)) hrest⟩

end SearchEnds

/-! ## The search of a namer -/

/-- The loop ends where the search with a bound does. -/
theorem searchEnds_search (used : List Text) (base : Text) (k : Nat) :
    ∃ passes, SearchEnds used base k passes (search used base used.length k) :=
  exists_searchEnds (lt_search used base used.length k) (search_not_mem used base k)
    fun _ hki hil => mem_of_lt_search hki hil

/-- The loop ends nowhere else. -/
theorem SearchEnds.eq_search {used : List Text} {base : Text} {k passes l : Nat}
    (h : SearchEnds used base k passes l) : l = search used base used.length k := by
  have hkl : k < l := by
    cases h with
    | free h => omega
    | taken h hrest => have := hrest.end_eq; omega
  -- each end is free and what is in front of it is taken, so none is in front of the other
  rcases Nat.lt_trichotomy l (search used base used.length k) with hlt | heq | hgt
  · exact absurd (mem_of_lt_search hkl hlt) h.not_mem
  · exact heq
  · exact absurd (h.mem_of_lt (lt_search used base used.length k) hgt) (search_not_mem used base k)

theorem length_used_names (n : MethodNamer) (ms : List Text) :
    (n.names ms).2.used.length = n.used.length + (n.names ms).1.length := by
  induction ms generalizing n with
  | nil => rfl
  | cons m ms ih =>
      rw [names_cons]
      simp only [ih, used_name, List.length_cons]
      omega

/-- **The search for a name always ends.** Whatever names a namer has given out, for the next method
its loop ends, after at most one pass more than there are these names, and what the namer gives out
and remembers is the candidate that the loop has ended at. -/
theorem search_ends (earlier : List Text) (m : Text) :
    let given := (empty.names earlier).1
    let n := (empty.names earlier).2
    let base := Text.capitalizeFirst m
    (∃ passes l, SearchEnds n.used base (n.count base) passes l) ∧
    ∀ passes l, SearchEnds n.used base (n.count base) passes l →
      passes ≤ given.length + 1 ∧
      n.name m = (nameCandidate base l, ⟨(base, l) :: n.counts, nameCandidate base l :: n.used⟩) := by
  intro given n base
  have hlength : n.used.length = given.length :=
    (length_used_names empty earlier).trans (Nat.zero_add given.length)
  constructor
  · obtain ⟨passes, hends⟩ := searchEnds_search n.used base (n.count base)
    exact ⟨passes, _, hends⟩
  · intro passes l hends
    refine ⟨hlength ▸ hends.passes_le, ?_⟩
    rw [hends.eq_search]
    rfl

/-- Two candidates have been given to other methods, and the loop for a second `add` passes over
both. -/
theorem secondAdd_search_ends :
    let earlier : List Text := ["add2", "add3", "add"]
    let n := (empty.names earlier).2
    SearchEnds n.used "Add" (n.count "Add") 3 4 ∧
    3 ≤ (empty.names earlier).1.length + 1 ∧ (n.name "add").1 = "Add4" := by
  intro earlier n
  have hends : SearchEnds n.used "Add" (n.count "Add") 3 4 :=
    .taken (by decide) (.taken (by decide) (.free (by decide)))
  obtain ⟨hpasses, hname⟩ := (search_ends earlier "add").2 3 4 hends
  exact ⟨hends, hpasses, congrArg Prod.fst hname⟩

end MethodNamer

end TestSkeleton
