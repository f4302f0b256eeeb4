import TestSkeleton.Assertion.Basic

set_option autoImplicit false

/-! # Assertions of tags

When a tag asks for an assertion, and for which one (`Assertion.ofTag_eq_ok_iff`), and why it asks
for none (`Assertion.ofTag_eq_error_iff`).
-/

namespace TestSkeleton

theorem TemplateKind.select_ne (k : AssertionKind) (onClass : Bool) :
    select k onClass ≠ .incomplete ∧ select k onClass ≠ .testClass := by
  cases k <;> cases onClass <;> decide

namespace Assertion

section Reading

variable {expression raw : Text}

theorem parse_eq_ok_iff {e : TestExpression} :
    parse expression raw = .ok e ↔ TestExpression.read? expression = .ok e := by
  unfold parse
  cases TestExpression.read? expression <;> simp

/-- The error shows the text of the tag, or else the expression. -/
theorem parse_eq_error_iff {x : AssertionError} :
    parse expression raw = .error x
      ↔ ∃ f, TestExpression.read? expression = .error f
        ∧ x = .malformed f (if raw.isEmpty then expression else raw) := by
  unfold parse
  cases TestExpression.read? expression with
  | ok e => simp
  | error f =>
      constructor
      · intro h
        cases h
        exact ⟨f, rfl, rfl⟩
      · rintro ⟨f', hf, rfl⟩
        cases hf
        rfl

end Reading

theorem kindOf_eq_ok_iff {operator raw : Text} {k : AssertionKind} :
    kindOf operator raw = .ok k ↔ AssertionKind.ofOperator? operator = some k := by
  unfold kindOf
  cases AssertionKind.ofOperator? operator <;> simp

section Tags

variable {tag : Annotation.Tag} {onClass : Bool}

/-- A tag asks for an assertion just if its expression can be read and its operator is known. -/
theorem ofTag_eq_ok_iff {a : Assertion} :
    ofTag tag onClass = .ok a
      ↔ ∃ e k, parse tag.expression tag.raw = .ok e
          ∧ kindOf e.operator tag.raw = .ok k
          ∧ a = ⟨(k.normalize e.expected).1, e.arguments, (k.normalize e.expected).2,
              TemplateKind.select k onClass, onClass⟩ := by
  unfold ofTag
  cases parse tag.expression tag.raw with
  | error e => simp [bind, Except.bind]
  | ok e =>
      cases hkind : kindOf e.operator tag.raw with
      | error e' => simp [bind, Except.bind, hkind]
      | ok k => simp [bind, Except.bind, pure, Except.pure, hkind, eq_comm]

/-- A tag asks for no assertion if its expression cannot be read, or else if its operator is
unknown. -/
theorem ofTag_eq_error_iff {x : AssertionError} :
    ofTag tag onClass = .error x
      ↔ parse tag.expression tag.raw = .error x
        ∨ ∃ e, parse tag.expression tag.raw = .ok e
            ∧ AssertionKind.ofOperator? e.operator = none
            ∧ x = .unknownOperator e.operator tag.raw := by
  unfold ofTag kindOf
  cases parse tag.expression tag.raw with
  | error e => simp [bind, Except.bind]
  | ok e =>
      cases hkind : AssertionKind.ofOperator? e.operator with
      | none => simp [bind, Except.bind, hkind, eq_comm]
      | some k => simp [bind, Except.bind, pure, Except.pure, hkind]

/-- An error is about the form of the expression just if that cannot be read. -/
theorem exists_malformed_iff :
    (∃ f raw, ofTag tag onClass = .error (.malformed f raw))
      ↔ ∃ f, TestExpression.read? tag.expression = .error f := by
  simp only [ofTag_eq_error_iff, parse_eq_error_iff]
  constructor
  · rintro ⟨f, raw, ⟨f', hread, -⟩ | ⟨e, -, -, heq⟩⟩
    · exact ⟨f', hread⟩
    · cases heq
  · rintro ⟨f, hread⟩
    exact ⟨f, _, Or.inl ⟨f, hread, rfl⟩⟩

/-- Every error shows the text of the tag, if the tag has one. -/
theorem raw_of_ofTag_eq_error {x : AssertionError} (hraw : tag.raw ≠ [])
    (h : ofTag tag onClass = .error x) : x.raw = tag.raw := by
  rcases ofTag_eq_error_iff.mp h with hparse | ⟨e, -, -, rfl⟩
  · obtain ⟨f, -, rfl⟩ := parse_eq_error_iff.mp hparse
    rw [List.isEmpty_eq_false_iff.mpr hraw]
    rfl
  · rfl

/-- An error that misses the opening parenthesis comes from reading the expression. -/
theorem read?_of_notParenthesized {raw : Text}
    (h : ofTag tag onClass = .error (.malformed .notParenthesized raw)) :
    TestExpression.read? tag.expression = .error .notParenthesized := by
  rcases ofTag_eq_error_iff.mp h with hparse | ⟨e, -, -, heq⟩
  · obtain ⟨f, hread, heq⟩ := parse_eq_error_iff.mp hparse
    obtain ⟨rfl, -⟩ := AssertionError.malformed.inj heq
    exact hread
  · cases heq

/-- The template of an assertion is neither that of placeholders nor that of test classes. -/
theorem template_ne_of_ofTag {a : Assertion} (h : ofTag tag onClass = .ok a) :
    a.template ≠ .incomplete ∧ a.template ≠ .testClass := by
  obtain ⟨e, k, -, -, rfl⟩ := ofTag_eq_ok_iff.mp h
  exact TemplateKind.select_ne k onClass

end Tags

end Assertion

end TestSkeleton
