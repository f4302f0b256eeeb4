import TestSkeleton.Proofs.Assertion.Basic
import TestSkeleton.Proofs.Assertion.Expression

set_option autoImplicit false

/-! # Test expressions as they are printed

Reading and printing are inverse to each other on the expressions that can be read at all:
`IsTrimmed` says of the three parts what reading leaves of them (`HasParts.isTrimmed`), and every
expression of this form is printed as a text that has these parts (`hasParts_print`).
`parse_exactly` puts together which texts are read, as what, and why the others are not.
-/

namespace TestSkeleton

open Text

namespace TestExpression

/-- The parts are such as they are read: no closing parenthesis is among the arguments, the operator
is one word, and neither the arguments nor the expected value have blank space at their ends. -/
structure IsTrimmed (e : TestExpression) : Prop where
  arguments : strip e.arguments = e.arguments
  closed : ')' ∉ e.arguments
  operator : IsWord e.operator
  expected : strip e.expected = e.expected

instance (e : TestExpression) : Decidable e.IsTrimmed :=
  decidable_of_iff (strip e.arguments = e.arguments ∧ ')' ∉ e.arguments ∧ IsWord e.operator
      ∧ strip e.expected = e.expected)
    ⟨fun ⟨h₁, h₂, h₃, h₄⟩ => ⟨h₁, h₂, h₃, h₄⟩, fun ⟨h₁, h₂, h₃, h₄⟩ => ⟨h₁, h₂, h₃, h₄⟩⟩

/-- What is printed behind the operator: nothing, or a space and the expected value. -/
def printedExpected (e : TestExpression) : Text :=
  if e.expected.isEmpty then [] else ' ' :: e.expected

section Printing

variable {t : Text} {e : TestExpression}

/-- **What is read is trimmed.** -/
theorem HasParts.isTrimmed (h : HasParts t e) : e.IsTrimmed := by
  cases h with
  | @intro arguments gap operator rest hclosed hblank hparted hword hended =>
      refine ⟨strip_strip arguments, fun hmem => ?_, hword, strip_strip rest⟩
      exact hclosed ((strip_sublist arguments).subset hmem)

theorem print_eq (e : TestExpression) :
    e.print = '(' :: (e.arguments ++ ')' :: ([' '] ++ (e.operator ++ e.printedExpected))) := by
  simp [print, printedExpected]

theorem atWordEnd_printedExpected (e : TestExpression) : atWordEnd e.printedExpected = true := by
  unfold printedExpected
  split <;> rfl

theorem strip_printedExpected (hexpected : strip e.expected = e.expected) :
    strip e.printedExpected = e.expected := by
  unfold printedExpected
  split
  next hempty =>
    rw [List.isEmpty_iff.mp hempty]
    rfl
  next =>
    have hspace : AllBlank [' '] := by decide
    calc strip (' ' :: e.expected)
        = strip e.expected := strip_append_left (s := [' ']) hspace
      _ = e.expected := hexpected

/-- The last character in print is that of the expected value, or of the operator if there is none. -/
theorem isBlank_getLast?_printedExpected (hword : IsWord e.operator)
    (hexpected : strip e.expected = e.expected) {c : Char}
    (hc : (e.operator ++ e.printedExpected).getLast? = some c) : isBlank c = false := by
  unfold printedExpected at hc
  split at hc
  next =>
    rw [List.append_nil] at hc
    exact hword.2 c (List.mem_of_getLast? hc)
  next hne =>
    have hne : e.expected ≠ [] := by simpa using hne
    rw [List.getLast?_append_of_ne_nil _ (List.cons_ne_nil _ _),
      List.getLast?_cons_of_ne_nil hne] at hc
    exact (strip_eq_self_iff.mp hexpected).2 c hc

theorem strip_print (hword : IsWord e.operator) (hexpected : strip e.expected = e.expected) :
    strip e.print = e.print := by
  refine strip_eq_self_iff.mpr ⟨?_, ?_⟩
  · intro c hc
    obtain rfl : '(' = c := Option.some.inj hc
    rfl
  · intro c hc
    have hsplit : e.print
        = ('(' :: (e.arguments ++ [')', ' '])) ++ (e.operator ++ e.printedExpected) := by
      simp [print_eq]
    have hne : e.operator ++ e.printedExpected ≠ [] :=
      List.append_ne_nil_of_left_ne_nil hword.1 _
    rw [hsplit, List.getLast?_append_of_ne_nil _ hne] at hc
    exact isBlank_getLast?_printedExpected hword hexpected hc

/-- **An expression is printed with its parts**, and blank space around its arguments is not one of
them. -/
theorem hasParts_print (hclosed : ')' ∉ e.arguments) (hword : IsWord e.operator)
    (hexpected : strip e.expected = e.expected) :
    HasParts (strip e.print) ⟨strip e.arguments, e.operator, e.expected⟩ := by
  have hspace : AllBlank [' '] := by decide
  -- the gap in print is a single space
  have hparts := HasParts.intro hclosed hspace (List.cons_ne_nil _ _) hword
    (atWordEnd_printedExpected e)
  rw [← print_eq, strip_printedExpected hexpected] at hparts
  rw [strip_print hword hexpected]
  exact hparts

theorem parse_print (h : e.IsTrimmed) (raw : Text) : Assertion.parse e.print raw = .ok e := by
  have hparts := hasParts_print h.closed h.operator h.expected
  rw [h.arguments] at hparts
  exact Assertion.parse_eq_ok_iff.mpr (read?_of_hasParts hparts)

end Printing

/-- **Test expressions, exactly.** A text is read just if it has the parts of a test expression, as
these parts, and refused just if it has a fault, for this fault. What is read at all are the trimmed
expressions, each of them from the text that it is printed as. Blank space is never all that follows
the arguments: the operator is missing only where there is no blank space. -/
theorem parse_exactly :
    (∀ t raw e, Assertion.parse t raw = .ok e ↔ HasParts (strip t) e)
      ∧ (∀ t raw x, Assertion.parse t raw = .error x
        ↔ ∃ f, HasFault (strip t) f ∧ x = .malformed f (if raw.isEmpty then t else raw))
      ∧ (∀ e : TestExpression, (∃ t raw, Assertion.parse t raw = .ok e) ↔ e.IsTrimmed)
      ∧ (∀ e : TestExpression, e.IsTrimmed → ∀ raw, Assertion.parse e.print raw = .ok e)
      ∧ ∀ t arguments rest : Text, strip t = '(' :: (arguments ++ ')' :: rest) → rest ≠ [] →
        (firstWord rest).1 ≠ [] := by
  have hok : ∀ t raw e, Assertion.parse t raw = .ok e ↔ HasParts (strip t) e := by
    intro t raw e
    rw [Assertion.parse_eq_ok_iff, read?_eq_ok_iff]
  refine ⟨hok, ?_, ?_, ?_, ?_⟩
  · intro t raw x
    simp only [Assertion.parse_eq_error_iff, read?_eq_error_iff]
  · intro e
    constructor
    · rintro ⟨t, raw, hparse⟩
      exact ((hok t raw e).mp hparse).isTrimmed
    · intro h
      exact ⟨e.print, [], parse_print h []⟩
  · intro e h raw
    exact parse_print h raw
  · intro t arguments rest ht hne
    have hsplit : strip t = '(' :: (arguments ++ [')']) ++ rest := by
      rw [ht]
      simp
    exact firstWord_ne_nil_of_strip_eq hsplit hne

/-- An expression whose arguments are cut short, so that a parenthesis is left in the expected
value. -/
def cutExpression : TestExpression := ⟨"max(1, 2", "+", "0) == 2"⟩

/-- The expression with blank space of different kinds around its parts. -/
def spacedExpression : Text := "\u00a0( max(1, 2\t)\u2003\u2003+ 0) == 2 \u001f"

theorem cutExpression_parsed :
    cutExpression.IsTrimmed
      ∧ strip spacedExpression = '(' :: (" max(1, 2\t" ++ ')' :: "\u2003\u2003+ 0) == 2".toList)
      ∧ Assertion.parse spacedExpression [] = .ok cutExpression
      ∧ Assertion.parse cutExpression.print [] = .ok cutExpression
      ∧ (firstWord "\u2003\u2003+ 0) == 2").1 ≠ [] := by
  have htrimmed : cutExpression.IsTrimmed := by decide
  have hstrip : strip spacedExpression
      = '(' :: (" max(1, 2\t" ++ ')' :: "\u2003\u2003+ 0) == 2".toList) := by decide
  obtain ⟨-, -, -, hprint, hword⟩ := parse_exactly
  exact ⟨htrimmed, hstrip, by decide, hprint _ htrimmed [], hword _ _ _ hstrip (by decide)⟩

end TestExpression

end TestSkeleton
