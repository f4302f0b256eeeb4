import TestSkeleton.Text.Basic

set_option autoImplicit false

/-! # Test expressions

A test expression is `(arguments) operator expected`. The arguments end at the first closing
parenthesis, whatever stands between; the operator is one word and the expected value, which may be
missing, is the rest. The printer `TestExpression.print` writes the three parts again.
-/

namespace TestSkeleton

open Text

/-- The parts of a test expression. -/
structure TestExpression where
  arguments : Text
  operator : Text
  expected : Text := []
deriving DecidableEq, Repr

namespace TestExpression

/-- What keeps a text from being a test expression. -/
inductive Fault where
  /-- The text does not start with an opening parenthesis. -/
  | notParenthesized
  /-- There is no closing parenthesis. -/
  | unclosed
  /-- No blank space, or nothing but blank space, follows the arguments. -/
  | missingOperator
deriving DecidableEq, Repr

/-- Reads a test expression. Blank space around it and around its parts does not belong to it. -/
def read? (t : Text) : Except Fault TestExpression :=
  match strip t with
  | '(' :: u =>
    match cut? ')' u with
    | none => .error .unclosed
    | some (arguments, rest) =>
      match rest with
      | [] => .error .missingOperator
      | c :: _ =>
        if !isBlank c then .error .missingOperator
        else
          match firstWord rest with
          | ([], _) => .error .missingOperator
          | (operator, expected) => .ok ⟨strip arguments, operator, strip expected⟩
  | _ => .error .notParenthesized

/-- The expression as a text. -/
def print (e : TestExpression) : Text :=
  '(' :: e.arguments ++ [')', ' '] ++ e.operator
    ++ if e.expected.isEmpty then [] else ' ' :: e.expected

end TestExpression

end TestSkeleton
