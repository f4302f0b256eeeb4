import Mathlib.Data.Char
import Mathlib.Data.List.TakeWhile
import TestSkeleton.Text.Terminal

set_option autoImplicit false

/-! # Texts without control sequences

`withoutControls` walks through a text with fuel. Here the fuel is taken out of it
(`withoutControls_cons`): a control sequence at the front is passed over, and any other character
stays. A text is left as it is just if no control sequence is in it
(`withoutControls_eq_self_iff`).
-/

namespace TestSkeleton.Text

/-! ## Control sequences -/

/-- The text is a control sequence. -/
inductive IsControl : Text → Prop
  | mk {parameters intermediates : Text} {final : Char}
      (hparameters : ∀ c ∈ parameters, isControlParameter c)
      (hintermediates : ∀ c ∈ intermediates, isControlIntermediate c)
      (hfinal : isControlFinal final) :
      IsControl (escapeChar :: '[' :: (parameters ++ (intermediates ++ [final])))

/-- There is a control sequence in the text. -/
def HoldsControl (t : Text) : Prop := ∃ s, IsControl s ∧ s <:+: t

/-- A character of one range is in no other range that ends before or starts behind it. -/
theorem inRange_eq_false {lo hi lo' hi' c : Char} (hc : (lo ≤ c && c ≤ hi) = true)
    (h : hi < lo' ∨ hi' < lo) : (lo' ≤ c && c ≤ hi') = false := by
  simp only [Bool.and_eq_true, decide_eq_true_eq] at hc
  simp only [Bool.and_eq_false_iff, decide_eq_false_iff_not, not_le]
  rcases h with h | h
  · exact Or.inl (hc.2.trans_lt h)
  · exact Or.inr (h.trans_le hc.1)

theorem isControlParameter_of_intermediate {c : Char} (h : isControlIntermediate c) :
    isControlParameter c = false := inRange_eq_false h (Or.inl (by decide))

theorem isControlParameter_of_final {c : Char} (h : isControlFinal c) :
    isControlParameter c = false := inRange_eq_false h (Or.inr (by decide))

theorem isControlIntermediate_of_final {c : Char} (h : isControlFinal c) :
    isControlIntermediate c = false := inRange_eq_false h (Or.inr (by decide))

theorem dropControl?_append {parameters intermediates : Text} {final : Char}
    (hparameters : ∀ c ∈ parameters, isControlParameter c)
    (hintermediates : ∀ c ∈ intermediates, isControlIntermediate c)
    (hfinal : isControlFinal final) (t : Text) :
    dropControl? (parameters ++ (intermediates ++ final :: t)) = some t := by
  have hrest : (intermediates ++ final :: t).dropWhile isControlParameter
      = intermediates ++ final :: t := by
    cases intermediates with
    | nil => simp [isControlParameter_of_final hfinal]
    | cons i _ =>
        have hi := isControlParameter_of_intermediate (hintermediates i List.mem_cons_self)
        simp [hi]
  rw [dropControl?, List.dropWhile_append_of_pos hparameters, hrest,
    List.dropWhile_append_of_pos hintermediates,
    List.dropWhile_cons_of_neg (by simp [isControlIntermediate_of_final hfinal])]
  simp [hfinal]

theorem exists_of_dropControl?_eq_some {t u : Text} (h : dropControl? t = some u) :
    ∃ s, IsControl s ∧ escapeChar :: '[' :: t = s ++ u := by
  have hparameters := List.takeWhile_append_dropWhile (p := isControlParameter) (l := t)
  generalize hr : t.dropWhile isControlParameter = r at hparameters
  have hintermediates := List.takeWhile_append_dropWhile (p := isControlIntermediate) (l := r)
  rw [dropControl?, hr] at h
  cases hfinal : r.dropWhile isControlIntermediate with
  | nil => rw [hfinal] at h; cases h
  | cons c v =>
      rw [hfinal] at h hintermediates
      simp only [Option.ite_none_right_eq_some, Option.some.injEq] at h
      obtain ⟨hc, rfl⟩ := h
      have hcontrol := IsControl.mk
        (fun c (hc : c ∈ t.takeWhile isControlParameter) => List.mem_takeWhile_imp hc)
        (fun c (hc : c ∈ r.takeWhile isControlIntermediate) => List.mem_takeWhile_imp hc) hc
      refine ⟨_, hcontrol, ?_⟩
      rw [List.cons_append, List.cons_append, List.append_assoc, List.append_assoc,
        List.singleton_append, hintermediates, hparameters]

/-- What follows the control sequence that a text starts with. -/
def behindControl? : Text → Option Text
  | c :: '[' :: t => if c == escapeChar then dropControl? t else none
  | _ => none

theorem behindControl?_eq_some_iff {t u : Text} :
    behindControl? t = some u ↔ ∃ s, IsControl s ∧ t = s ++ u := by
  constructor
  · intro h
    unfold behindControl? at h
    split at h
    next c t =>
      split at h
      next hc => exact beq_iff_eq.mp hc ▸ exists_of_dropControl?_eq_some h
      next => cases h
    next => cases h
  · rintro ⟨s, ⟨hparameters, hintermediates, hfinal⟩, rfl⟩
    simpa [behindControl?] using dropControl?_append hparameters hintermediates hfinal u

theorem length_lt_of_behindControl? {t u : Text} (h : behindControl? t = some u) :
    u.length < t.length := by
  obtain ⟨s, ⟨⟩, rfl⟩ := behindControl?_eq_some_iff.mp h
  simp only [List.cons_append, List.length_cons, List.length_append]
  omega

theorem behindControl?_cons_of_ne {c : Char} (h : c ≠ escapeChar) (t : Text) :
    behindControl? (c :: t) = none := by
  unfold behindControl?
  split
  next c' _ heq => cases heq; simp [h]
  next => rfl

theorem holdsControl_cons_iff {c : Char} {t : Text} :
    HoldsControl (c :: t) ↔ (∃ u, behindControl? (c :: t) = some u) ∨ HoldsControl t := by
  simp only [HoldsControl, List.infix_cons_iff, behindControl?_eq_some_iff]
  constructor
  · rintro ⟨s, hs, ⟨u, hu⟩ | ht⟩
    · exact Or.inl ⟨u, s, hs, hu.symm⟩
    · exact Or.inr ⟨s, hs, ht⟩
  · rintro (⟨u, s, hs, hu⟩ | ⟨s, hs, ht⟩)
    · exact ⟨s, hs, Or.inl ⟨u, hu.symm⟩⟩
    · exact ⟨s, hs, Or.inr ht⟩

/-! ## What is left -/

theorem withoutControlsSteps_cons (fuel : Nat) (c : Char) (t : Text) :
    withoutControlsSteps (fuel + 1) (c :: t)
      = match behindControl? (c :: t) with
        | some u => withoutControlsSteps fuel u
        | none => c :: withoutControlsSteps fuel t := by
  cases t with
  | nil => rfl
  | cons d t =>
      by_cases hd : d = '['
      · subst hd
        by_cases hc : c = escapeChar
        · subst hc
          cases hdrop : dropControl? t with
          | some u => simp [withoutControlsSteps, behindControl?, hdrop]
          | none => simp [withoutControlsSteps, behindControl?, hdrop]
        · simp [withoutControlsSteps, behindControl?, hc]
      · simp [withoutControlsSteps, behindControl?, hd]

/-- Fuel beyond the length of the text changes nothing. -/
theorem withoutControlsSteps_eq {n m : Nat} {t : Text} (hn : t.length ≤ n) (hm : t.length ≤ m) :
    withoutControlsSteps n t = withoutControlsSteps m t := by
  induction n generalizing m t with
  | zero =>
      obtain rfl := List.length_eq_zero_iff.mp (Nat.le_zero.mp hn)
      cases m <;> rfl
  | succ n ih =>
      cases t with
      | nil => cases m <;> rfl
      | cons c t =>
          -- both walks pass over the same control sequence or keep the same character
          obtain ⟨m, rfl⟩ := Nat.exists_eq_succ_of_ne_zero (Nat.ne_zero_of_lt hm)
          rw [withoutControlsSteps_cons, withoutControlsSteps_cons]
          cases h : behindControl? (c :: t) with
          | none => exact congrArg (c :: ·) (ih (Nat.le_of_succ_le_succ hn)
              (Nat.le_of_succ_le_succ hm))
          | some u =>
              have hu := length_lt_of_behindControl? h
              exact ih (Nat.le_of_lt_succ (Nat.lt_of_lt_of_le hu hn))
                (Nat.le_of_lt_succ (Nat.lt_of_lt_of_le hu hm))

/-- **The walk without fuel.** -/
theorem withoutControls_cons (c : Char) (t : Text) :
    withoutControls (c :: t)
      = match behindControl? (c :: t) with
        | some u => withoutControls u
        | none => c :: withoutControls t := by
  rw [withoutControls, List.length_cons, withoutControlsSteps_cons]
  cases h : behindControl? (c :: t) with
  | none => rfl
  | some u =>
      exact withoutControlsSteps_eq (Nat.le_of_lt_succ (length_lt_of_behindControl? h)) le_rfl

theorem withoutControls_cons_of_ne {c : Char} (h : c ≠ escapeChar) (t : Text) :
    withoutControls (c :: t) = c :: withoutControls t := by
  rw [withoutControls_cons, behindControl?_cons_of_ne h]

theorem length_withoutControls_le (t : Text) : (withoutControls t).length ≤ t.length := by
  induction h : t.length using Nat.strong_induction_on generalizing t with
  | _ n ih =>
      subst h
      cases t with
      | nil => exact le_rfl
      | cons c t =>
          rw [withoutControls_cons]
          cases h : behindControl? (c :: t) with
          | none => exact Nat.succ_le_succ (ih _ (Nat.lt_succ_self _) t rfl)
          | some u =>
              have hu := length_lt_of_behindControl? h
              exact (ih _ hu u rfl).trans hu.le

/-- **A text is left as it is** just if there is no control sequence in it. -/
theorem withoutControls_eq_self_iff {t : Text} : withoutControls t = t ↔ ¬ HoldsControl t := by
  induction t with
  | nil =>
      refine ⟨?_, fun _ => rfl⟩
      rintro - ⟨s, ⟨⟩, hs⟩
      exact absurd (List.infix_nil.mp hs) (List.cons_ne_nil _ _)
  | cons c t ih =>
      rw [holdsControl_cons_iff, withoutControls_cons]
      cases h : behindControl? (c :: t) with
      | none => simpa using ih
      | some u =>
          -- what is left is shorter than the text, and so another one
          have hu := length_lt_of_behindControl? h
          have hle := length_withoutControls_le u
          have hne : withoutControls u ≠ c :: t := fun heq => by
            rw [heq] at hle
            omega
          simpa using hne

end TestSkeleton.Text
