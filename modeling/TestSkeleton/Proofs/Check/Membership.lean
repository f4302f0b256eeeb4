import TestSkeleton.Check.Basic
import TestSkeleton.Proofs.Check.Inequality
import TestSkeleton.Proofs.Result
import TestSkeleton.Proofs.Value.Equality

set_option autoImplicit false

/-! # Sets without each other's members

Two sets are equal if they are as large and all members of the first are found in the second. The
check of two sets asks for something else: that nothing is left of either without the members of the
other. Where the members are compared as by an equivalence (`CompareFairly`), this comes to the same
(`requireSameMembers_eq_ok_none_iff`), as no member is left over then. No two members of a set match
in any case (`pairwise_collectMembers`).
-/

namespace TestSkeleton

namespace Declarations

variable {d : Declarations} {v w : Value} {vs ws : List Value} {R : Value → Value → Bool}

/-! ## Finding members -/

/-- If no comparison fails, a value is found if some member matches it. -/
theorem isFound_eq (h : ∀ w ∈ ws, d.matchesKey w v = .ok (R w v)) :
    d.isFound v ws = .ok (ws.any fun w => R w v) := by
  induction ws with
  | nil => rw [isFound, List.any_nil]
  | cons w ws ih =>
      obtain ⟨hw, hws⟩ := List.forall_mem_cons.mp h
      rw [isFound, hw, List.any_cons]
      cases R w v with
      | true => rfl
      | false => exact ih hws

theorem isFound_eq_ok_false_iff :
    d.isFound v ws = .ok false ↔ ∀ w ∈ ws, d.matchesKey w v = .ok false := by
  induction ws with
  | nil => simp [isFound]
  | cons w ws ih =>
      rw [isFound, List.forall_mem_cons, bind_eq_ok_iff]
      constructor
      · rintro ⟨found, hfound, h⟩
        cases found with
        | true => cases h
        | false => exact ⟨hfound, ih.mp h⟩
      · rintro ⟨hw, hws⟩
        exact ⟨false, hw, ih.mpr hws⟩

theorem areFound_eq (h : ∀ v ∈ vs, ∀ w ∈ ws, d.matchesKey w v = .ok (R w v)) :
    d.areFound vs ws = .ok (vs.all fun v => ws.any fun w => R w v) := by
  induction vs with
  | nil => rw [areFound, List.all_nil]
  | cons v vs ih =>
      obtain ⟨hv, hvs⟩ := List.forall_mem_cons.mp h
      rw [areFound, isFound_eq hv, List.all_cons]
      cases ws.any fun w => R w v with
      | true => exact ih hvs
      | false => rfl

/-- Only two tuples have the hashes of their members, others their own. -/
theorem sameHash_of_ne_tuple (hne : ∀ vs ws, v = .tuple vs → w ≠ .tuple ws) :
    d.sameHash v w
      = if (d.ownHash? v).isSome then d.hashesToZero w
        else if (d.ownHash? w).isSome then d.hashesToZero v else true := by
  rw [sameHash.eq_def]
  split
  next vs ws => exact absurd rfl (hne vs ws rfl)
  next => rfl

/-- A value that is not the member itself matches it by its hash and by what one of them answers. -/
theorem matchesKey_of_equalAnswer? {r : Except Misuse Bool} (hother : isIdentical v w = false)
    (hhash : d.sameHash v w = true) (h : d.equalAnswer? v w = some r) : d.matchesKey v w = r := by
  rw [matchesKey, if_neg (by simp [hother]), if_pos hhash, equal_of_equalAnswer? h]

/-- No two members of a set match: the later one was looked for among the earlier ones when the set
was made. -/
theorem pairwise_collectMembers {members : List Value} (h : d.collectMembers vs = .ok members) :
    members.Pairwise fun u u' => d.matchesKey u u' = .ok false := by
  have hstep : ∀ (kept made : List Value) (v : Value), d.addMember kept v = .ok made →
      kept.Pairwise (fun u u' => d.matchesKey u u' = .ok false) →
      made.Pairwise fun u u' => d.matchesKey u u' = .ok false := by
    intro kept made v hmade hkept
    obtain ⟨found, hfound, hmade⟩ := bind_eq_ok_iff.mp hmade
    cases found with
    | true => cases hmade; exact hkept
    | false =>
        cases hmade
        refine List.pairwise_append.mpr ⟨hkept, List.pairwise_singleton _ v, fun u hu v' hv' => ?_⟩
        obtain rfl := List.mem_singleton.mp hv'
        exact isFound_eq_ok_false_iff.mp hfound u hu
  suffices hall : ∀ kept : List Value,
      kept.Pairwise (fun u u' => d.matchesKey u u' = .ok false) →
      vs.foldlM d.addMember kept = .ok members →
      members.Pairwise fun u u' => d.matchesKey u u' = .ok false from hall [] .nil h
  clear h
  induction vs with
  | nil => rintro kept hkept ⟨⟩; exact hkept
  | cons v vs ih =>
      intro kept hkept h
      rw [List.foldlM_cons] at h
      obtain ⟨made, hmade, h⟩ := bind_eq_ok_iff.mp h
      exact ih made (hstep kept made v hmade hkept) h

/-! ## Fair comparisons -/

/-- Members are matched as `R` says, which is symmetric and transitive, and no two members of one
list match. -/
structure MatchesBy (d : Declarations) (vs ws : List Value) (R : Value → Value → Bool) : Prop where
  matchesKey_eq : ∀ u ∈ vs ++ ws, ∀ u' ∈ vs ++ ws, d.matchesKey u u' = .ok (R u u')
  symm : ∀ u ∈ vs ++ ws, ∀ u' ∈ vs ++ ws, R u u' = true → R u' u = true
  trans : ∀ u ∈ vs ++ ws, ∀ u' ∈ vs ++ ws, ∀ u'' ∈ vs ++ ws,
    R u u' = true → R u' u'' = true → R u u'' = true
  distinct_left : vs.Pairwise fun u u' => R u u' = false
  distinct_right : ws.Pairwise fun u u' => R u u' = false

/-- **The members of two sets are compared as by an equivalence**, without failing. No two members
of one set match, as they have been asked when the set was made. -/
def CompareFairly (d : Declarations) (vs ws : List Value) : Prop := ∃ R, d.MatchesBy vs ws R

namespace MatchesBy

theorem swap (h : d.MatchesBy vs ws R) : d.MatchesBy ws vs R where
  matchesKey_eq u hu u' hu' :=
    h.matchesKey_eq u (List.mem_append.mpr (List.mem_append.mp hu).symm) u'
      (List.mem_append.mpr (List.mem_append.mp hu').symm)
  symm u hu u' hu' :=
    h.symm u (List.mem_append.mpr (List.mem_append.mp hu).symm) u'
      (List.mem_append.mpr (List.mem_append.mp hu').symm)
  trans u hu u' hu' u'' hu'' :=
    h.trans u (List.mem_append.mpr (List.mem_append.mp hu).symm) u'
      (List.mem_append.mpr (List.mem_append.mp hu').symm) u''
      (List.mem_append.mpr (List.mem_append.mp hu'').symm)
  distinct_left := h.distinct_right
  distinct_right := h.distinct_left

variable (h : d.MatchesBy vs ws R)

include h

theorem areFound_eq :
    d.areFound vs ws = .ok (vs.all fun v => ws.any fun w => R w v) :=
  Declarations.areFound_eq fun v hv w hw =>
    h.matchesKey_eq w (List.mem_append_right vs hw) v (List.mem_append_left ws hv)

theorem areFound_eq_ok_true_iff :
    d.areFound vs ws = .ok true ↔ ∀ v ∈ vs, ∃ w ∈ ws, R v w = true := by
  rw [h.areFound_eq, Except.ok.injEq, List.all_eq_true]
  refine forall₂_congr fun v hv => List.any_eq_true.trans (exists_congr fun w => ?_)
  refine and_congr_right fun hw => ?_
  exact ⟨h.symm w (List.mem_append_right vs hw) v (List.mem_append_left ws hv),
    h.symm v (List.mem_append_left ws hv) w (List.mem_append_right vs hw)⟩

/-- Two members of the first set do not match the same one of the second. -/
theorem pairwise_left : vs.Pairwise fun u u' => ∀ w ∈ ws, R u w = true → ¬ R u' w = true := by
  refine h.distinct_left.imp_of_mem fun {u u'} hu hu' hne w hw huw hu'w => ?_
  have hu := List.mem_append_left ws hu
  have hu' := List.mem_append_left ws hu'
  have hw := List.mem_append_right vs hw
  rw [h.trans u hu w hw u' hu' huw (h.symm u' hu' w hw hu'w)] at hne
  cases hne

/-- Sets that are as large and of which one holds the other hold each other, and the other way
round. -/
theorem sameSize_iff :
    vs.length = ws.length ∧ d.areFound vs ws = .ok true
      ↔ d.areFound vs ws = .ok true ∧ d.areFound ws vs = .ok true := by
  rw [h.areFound_eq_ok_true_iff, h.swap.areFound_eq_ok_true_iff]
  constructor
  · rintro ⟨hlength, hfound⟩
    have hmatched : IsMatchedIn (fun u u' => R u u' = true) vs ws := ⟨hlength, hfound⟩
    refine ⟨hfound, fun w hw => ?_⟩
    obtain ⟨v, hv, hvw⟩ := hmatched.exists_of_mem h.pairwise_left w hw
    exact ⟨v, hv,
      h.symm v (List.mem_append_left ws hv) w (List.mem_append_right vs hw) hvw⟩
  · rintro ⟨hfound, hfound'⟩
    exact ⟨Nat.le_antisymm (length_le_of_matched hfound h.pairwise_left)
      (length_le_of_matched hfound' h.swap.pairwise_left), hfound⟩

end MatchesBy

/-! ## Sets -/

/-- Two sets of one type with their members. -/
inductive AreSets : Value → Value → List Value → List Value → Prop
  | open (vs ws : List Value) : AreSets (.set vs) (.set ws) vs ws
  | frozen (vs ws : List Value) : AreSets (.frozenset vs) (.frozenset ws) vs ws

/-- If two values are sets of one type, their members are compared fairly. -/
def SetsCompareFairly (d : Declarations) (v w : Value) : Prop :=
  ∀ vs ws, AreSets v w vs ws → d.CompareFairly vs ws

theorem AreSets.equal_eq (h : AreSets v w vs ws) :
    d.equal v w = if vs.length == ws.length then d.areFound vs ws else .ok false := by
  cases h <;> rw [equal.eq_def, equalAnswer?_eq_none rfl rfl]

theorem AreSets.equal_eq_ok_true_iff (h : AreSets v w vs ws) :
    d.equal v w = .ok true ↔ vs.length = ws.length ∧ d.areFound vs ws = .ok true := by
  rw [h.equal_eq]
  by_cases hlength : vs.length = ws.length <;> simp [hlength]

theorem setsCompareFairly_int (n : Int) : d.SetsCompareFairly (.int n) w := nofun

end Declarations

namespace Check

open Declarations

variable {d : Declarations} {v w : Value} {vs ws : List Value}

/-- **Nothing is left of two sets** without each other's members just if they are equal, where the
members are compared fairly. -/
theorem requireSameMembers_eq_ok_none_iff (h : d.CompareFairly vs ws) :
    requireSameMembers d vs ws = .ok none
      ↔ vs.length = ws.length ∧ d.areFound vs ws = .ok true := by
  obtain ⟨R, hR⟩ := h
  have hboth : requireSameMembers d vs ws = .ok none
      ↔ d.leavesNothing vs ws = .ok true ∧ d.leavesNothing ws vs = .ok true := by
    unfold requireSameMembers
    split
    next hleft hright => exact iff_of_true rfl ⟨hleft, hright⟩
    next hnot => exact iff_of_false nofun fun hleaves => hnot hleaves.1 hleaves.2
  rw [hboth, hR.sameSize_iff, leavesNothing, leavesNothing]
  constructor
  · intro hleaves
    split at hleaves <;> split at hleaves <;> simp_all
  · intro hfound
    have hlength := (hR.sameSize_iff.mpr hfound).1
    rw [if_neg (by omega), if_neg (by omega)]
    exact hfound

/-- The check passes if all members are found both ways, however many there are in few sets. -/
theorem requireSameMembers_of_areFound (hsmall : vs.length < 4) (hsmall' : ws.length < 4)
    (h : d.areFound vs ws = .ok true) (h' : d.areFound ws vs = .ok true) :
    requireSameMembers d vs ws = .ok none := by
  rw [requireSameMembers, leavesNothing, leavesNothing, if_neg (by omega), if_neg (by omega), h, h']

/-- The check of two sets of one type looks at their members. -/
theorem requireEqual_of_areSets (h : AreSets v w vs ws) :
    requireEqual d v w = requireSameMembers d vs ws := by
  cases h <;> rfl

/-- The check of other values asks if they are equal. -/
theorem requireEqual_of_not_areSets (h : ∀ vs ws, ¬ AreSets v w vs ws) :
    requireEqual d v w = (do
      if ← d.equal v w then return none
      if isComparedByLines d v w then
        d.findDifference (v.sequence?.getD []) (w.sequence?.getD [])
      return some (unequal d v w)) := by
  unfold requireEqual
  split
  next vs ws => exact absurd (.open vs ws) (h vs ws)
  next vs ws => exact absurd (.frozen vs ws) (h vs ws)
  next => rfl

/-- **The check of two values passes just if they are equal**, where the members of sets are compared
fairly. A search for the first difference can fail, but what comes out does not depend on it. -/
theorem requireEqual_eq_ok_none_iff (hsets : d.SetsCompareFairly v w) :
    requireEqual d v w = .ok none ↔ d.equal v w = .ok true := by
  by_cases h : ∃ vs ws, AreSets v w vs ws
  · obtain ⟨vs, ws, h⟩ := h
    rw [requireEqual_of_areSets h, requireSameMembers_eq_ok_none_iff (hsets vs ws h),
      h.equal_eq_ok_true_iff]
  · rw [requireEqual_of_not_areSets fun vs ws hvw => h ⟨vs, ws, hvw⟩]
    constructor
    · intro hpasses
      obtain ⟨isEqual, hequal, hpasses⟩ := bind_eq_ok_iff.mp hpasses
      cases isEqual with
      | true => exact hequal
      | false =>
          simp only [Bool.false_eq_true, if_false] at hpasses
          split at hpasses
          · obtain ⟨-, -, hpasses⟩ := bind_eq_ok_iff.mp hpasses
            cases hpasses
          · cases hpasses
    · intro hequal
      rw [hequal]
      rfl

end Check

end TestSkeleton
