import TestSkeleton.Annotation.Tag
import TestSkeleton.Assertion.Expression
import TestSkeleton.Assertion.Template

set_option autoImplicit false

/-! # Assertions

An assertion is what the test expression of a tag asks for, ready to be rendered: a kind, the
arguments of the call, the expected value and the template. `Assertion.ofTag` reads it from a tag.
-/

namespace TestSkeleton

/-- An assertion ready to be rendered. -/
structure Assertion where
  kind : AssertionKind
  arguments : Text
  expected : Text
  template : TemplateKind
  isStatic : Bool
deriving DecidableEq, Repr

/-- Why a tag asks for no assertion. `raw` is the text of the tag. -/
inductive AssertionError where
  | malformed (fault : TestExpression.Fault) (raw : Text)
  | unknownOperator (operator raw : Text)
deriving DecidableEq, Repr

/-- The text of the tag at fault. -/
def AssertionError.raw : AssertionError → Text
  | malformed _ raw => raw
  | unknownOperator _ raw => raw

/-- The text in backquotes. -/
def Text.backquoted (t : Text) : Text := '`' :: t ++ ['`']

/-- The message of the error. -/
def AssertionError.message : AssertionError → Text
  | malformed .notParenthesized raw => "Test expression must start with `(`: " ++ raw.backquoted
  | malformed .unclosed raw => "Test expression has no closing `)`: " ++ raw.backquoted
  | malformed .missingOperator raw => "Missing operator after arguments: " ++ raw.backquoted
  | unknownOperator operator raw =>
    "Assertion could not be parsed from @assert tag. Got unknown test type: "
      ++ operator.backquoted ++ if raw.isEmpty then [] else (" in " : Text) ++ raw.backquoted

namespace Assertion

/-- Reads a test expression; an error shows the text of its tag, or the expression if there is no
such text. -/
def parse (expression raw : Text) : Except AssertionError TestExpression :=
  match TestExpression.read? expression with
  | .ok e => .ok e
  | .error f => .error (.malformed f (if raw.isEmpty then expression else raw))

/-- The kind of an operator. -/
def kindOf (operator raw : Text) : Except AssertionError AssertionKind :=
  match AssertionKind.ofOperator? operator with
  | some k => .ok k
  | none => .error (.unknownOperator operator raw)

/-- The assertion that a tag asks for. -/
def ofTag (tag : Annotation.Tag) (isStatic : Bool) : Except AssertionError Assertion := do
  let e ← parse tag.expression tag.raw
  let kind ← kindOf e.operator tag.raw
  let template := TemplateKind.select kind isStatic
  let (kind, expected) := kind.normalize e.expected
  return ⟨kind, e.arguments, expected, template, isStatic⟩

end Assertion

end TestSkeleton
