import TestSkeleton.Check.Comparison

set_option autoImplicit false

/-! # Asking objects if they differ

An object can be asked both if it is equal to a value and if it differs from it. If its class leaves
the second question to the first (`LeavesInequality`), the answers are opposite, and with them those
for all values (`differ_eq`).
-/

namespace TestSkeleton.Declarations

/-- The class of a value leaves it to `==` what `!=` comes to. Plain data has a `!=` of its own,
which a class that is derived from it and declares `==` alone does not replace. -/
def LeavesInequality (d : Declarations) (v : Value) : Prop :=
  d.fails v "__ne__" = false ∧ (d.fails v "__eq__" = true → v.plainKind? = none)

variable {d : Declarations} {knows : PlainType → PlainType → Bool} {v w : Value}

theorem leavesInequality_int (n : Int) : d.LeavesInequality (.int n) := ⟨rfl, nofun⟩
theorem leavesInequality_set (vs : List Value) : d.LeavesInequality (.set vs) := ⟨rfl, nofun⟩

theorem answer?_isSome (operator : String) :
    (d.answer? operator v w).isSome = d.fails v operator := by
  cases v <;> simp [answer?, fails]

theorem answer?_eq_none {operator : String} (h : d.fails v operator = false) :
    d.answer? operator v w = none := by
  rw [← Option.not_isSome_iff_eq_none, answer?_isSome, h]
  exact Bool.false_ne_true

/-- Two values that do not answer for themselves have no answer. -/
theorem equalAnswer?_eq_none (hv : d.fails v "__eq__" = false) (hw : d.fails w "__eq__" = false) :
    d.equalAnswer? v w = none := by
  unfold equalAnswer? ownAnswer?
  rw [answer?_eq_none hv, answer?_eq_none hw]
  split <;> split <;> rfl

theorem exists_answer? {operator : String} (h : d.fails v operator = true) :
    ∃ r, d.answer? operator v w = some r := by
  rw [← Option.isSome_iff_exists, answer?_isSome, h]

theorem LeavesInequality.answerDiffers?_eq (h : d.LeavesInequality v) :
    d.answerDiffers? v w = (d.answer? "__eq__" v w).map fun r => r.map not := by
  rw [answerDiffers?, answer?_eq_none h.1, Option.orElse_none]
  cases heq : d.fails v "__eq__" with
  | false => simp [answer?_eq_none heq]
  | true => simp [h.2 heq]

/-- Asking each of two objects something else about its answer is asking it about the answer that
they give. -/
theorem ownAnswer?_map {asked answering asked' answering' :
      Value → Value → Option (Except Misuse Bool)} {f : Except Misuse Bool → Except Misuse Bool}
    (hv : asked' v w = (asked v w).map f) (hw : answering' w v = (answering w v).map f) :
    d.ownAnswer? knows asked' answering' v w = (d.ownAnswer? knows asked answering v w).map f := by
  unfold ownAnswer?
  rw [hv, hw]
  cases asked v w <;> cases answering w v <;> split <;> first | rfl | (split <;> rfl)

/-- What declares `==` is no plain data, about which other data would know. -/
theorem LeavesInequality.answers_eq_false (h : d.LeavesInequality v)
    (hfails : d.fails v "__eq__" = true) : answers knows w v = false := by
  simp [answers, h.2 hfails]

theorem differAnswer?_eq (hv : d.LeavesInequality v) (hw : d.LeavesInequality w) :
    d.differAnswer? v w = (d.equalAnswer? v w).map fun r => r.map not :=
  ownAnswer?_map hv.answerDiffers?_eq hw.answerDiffers?_eq

section Asking

variable {asked answering : Value → Value → Option (Except Misuse Bool)} {r : Except Misuse Bool}

/-- An object that has an answer gives it, unless the other one is plain data that answers. -/
theorem ownAnswer?_ne_none_of_asked (h : asked v w = some r) (hknows : answers knows w v = false) :
    d.ownAnswer? knows asked answering v w ≠ none := by
  unfold ownAnswer?
  cases answering w v <;> split <;> simp [h, hknows]

theorem ownAnswer?_ne_none_of_answering (h : answering w v = some r)
    (hknows : answers knows v w = false) : d.ownAnswer? knows asked answering v w ≠ none := by
  unfold ownAnswer?
  cases asked v w <;> split <;> simp [h, hknows]

end Asking

/-- If neither of two objects answers for itself, neither has an answer. -/
theorem fails_eq_false_of_equalAnswer? (hv : d.LeavesInequality v) (hw : d.LeavesInequality w)
    (h : d.equalAnswer? v w = none) :
    d.fails v "__eq__" = false ∧ d.fails w "__eq__" = false := by
  constructor
  · cases hfails : d.fails v "__eq__" with
    | false => rfl
    | true =>
        obtain ⟨r, hr⟩ := exists_answer? (w := w) hfails
        exact absurd h (ownAnswer?_ne_none_of_asked hr (hv.answers_eq_false hfails))
  · cases hfails : d.fails w "__eq__" with
    | false => rfl
    | true =>
        obtain ⟨r, hr⟩ := exists_answer? (w := v) hfails
        exact absurd h (ownAnswer?_ne_none_of_answering hr (hw.answers_eq_false hfails))

/-- What an object that is no plain data answers decides, whichever side it is on, if the other value
does not answer for itself. -/
theorem equalAnswer?_of_answer? {r : Except Misuse Bool} (h : d.answer? "__eq__" v w = some r)
    (hv : v.plainKind? = none) (hw : d.fails w "__eq__" = false) :
    d.equalAnswer? v w = some r ∧ d.equalAnswer? w v = some r := by
  have hanswers : answers PlainType.understands w v = false := by simp [answers, hv]
  unfold equalAnswer? ownAnswer?
  constructor <;> split <;> simp [h, answer?_eq_none hw, hanswers]

theorem equal_of_equalAnswer? {r : Except Misuse Bool} (h : d.equalAnswer? v w = some r) :
    d.equal v w = r := by
  rw [equal.eq_def, h]

/-- **Two values differ if they are not equal**, if both leave it at that. -/
theorem differ_eq (hv : d.LeavesInequality v) (hw : d.LeavesInequality w) :
    d.differ v w = (d.equal v w).map not := by
  have hown := differAnswer?_eq hv hw
  cases heq : d.equalAnswer? v w with
  | some r => simp [differ, hown, heq, equal_of_equalAnswer? heq]
  | none =>
      obtain ⟨hv', hw'⟩ := fails_eq_false_of_equalAnswer? hv hw heq
      simp [differ, hown, heq, hv', hw']

end TestSkeleton.Declarations
