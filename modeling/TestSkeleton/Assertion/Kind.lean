import TestSkeleton.Text.Case

set_option autoImplicit false

/-! # Kinds of assertion

What a generated test asserts, and the operators of test expressions that stand for it. Four kinds
look at the actual value alone; the word `false` behind their operator turns them into their
opposite.
-/

namespace TestSkeleton

/-- What a generated test asserts about the actual value. -/
inductive AssertionKind where
  | equals | notEquals | same | notSame
  | greaterThan | greaterThanOrEqual | lessThan | lessThanOrEqual
  | exception
  | empty | notEmpty
  | instanceOf | notInstanceOf
  | contains | notContains
  | arrayHasKey | arrayNotHasKey
  | objectHasAttribute | objectNotHasAttribute
  | internalType | notInternalType
  | containsOnly | notContainsOnly
  | count | notCount
  | fileExists | fileNotExists
  | regExp | notRegExp
deriving DecidableEq, Repr

namespace AssertionKind

/-- The name of a kind: what follows `assert` in the method that a generated test calls. -/
def name : AssertionKind → Text
  | equals => "Equals"
  | notEquals => "NotEquals"
  | same => "Same"
  | notSame => "NotSame"
  | greaterThan => "GreaterThan"
  | greaterThanOrEqual => "GreaterThanOrEqual"
  | lessThan => "LessThan"
  | lessThanOrEqual => "LessThanOrEqual"
  | exception => "Exception"
  | empty => "Empty"
  | notEmpty => "NotEmpty"
  | instanceOf => "InstanceOf"
  | notInstanceOf => "NotInstanceOf"
  | contains => "Contains"
  | notContains => "NotContains"
  | arrayHasKey => "ArrayHasKey"
  | arrayNotHasKey => "ArrayNotHasKey"
  | objectHasAttribute => "ObjectHasAttribute"
  | objectNotHasAttribute => "ObjectNotHasAttribute"
  | internalType => "InternalType"
  | notInternalType => "NotInternalType"
  | containsOnly => "ContainsOnly"
  | notContainsOnly => "NotContainsOnly"
  | count => "Count"
  | notCount => "NotCount"
  | fileExists => "FileExists"
  | fileNotExists => "FileNotExists"
  | regExp => "RegExp"
  | notRegExp => "NotRegExp"

/-- The operators of test expressions with their kinds. -/
def operators : List (Text × AssertionKind) := [
  ("==", equals),
  ("!=", notEquals),
  ("===", same),
  ("!==", notSame),
  (">", greaterThan),
  (">=", greaterThanOrEqual),
  ("<", lessThan),
  ("<=", lessThanOrEqual),
  ("throws", exception),
  ("empty", empty),
  ("!empty", notEmpty),
  ("instanceof", instanceOf),
  ("!instanceof", notInstanceOf),
  ("contains-value", contains),
  ("!contains-value", notContains),
  ("contains-key", arrayHasKey),
  ("!contains-key", arrayNotHasKey),
  ("contains-property", objectHasAttribute),
  ("!contains-property", objectNotHasAttribute),
  ("is-type", internalType),
  ("!is-type", notInternalType),
  ("contains-only-type", containsOnly),
  ("!contains-only-type", notContainsOnly),
  ("count", count),
  ("!count", notCount),
  ("file-exists", fileExists),
  ("!file-exists", fileNotExists),
  ("matches", regExp),
  ("!matches", notRegExp)]

/-- All kinds, in the order of their operators. -/
def all : List AssertionKind := operators.map Prod.snd

/-- The kind that an operator stands for. -/
def ofOperator? (operator : Text) : Option AssertionKind := operators.lookup operator

/-- The kind of a given name. -/
def ofName? (name : Text) : Option AssertionKind := all.find? fun k => k.name == name

/-- The opposite of a kind that looks at the actual value alone. -/
def opposite? : AssertionKind → Option AssertionKind
  | empty => some notEmpty
  | notEmpty => some empty
  | fileExists => some fileNotExists
  | fileNotExists => some fileExists
  | _ => none

/-- Whether a kind looks at the actual value alone, so that no expected value is given. -/
def isUnary (k : AssertionKind) : Bool := k.opposite?.isSome

/-- Whether a text spells the word `false`, in any case. -/
def spellsFalse (t : Text) : Bool := Text.upper t == "FALSE".toList

/-- Turns a kind with the expected value `false` into its opposite without an expected value, where
there is an opposite. -/
def normalize (k : AssertionKind) (expected : Text) : AssertionKind × Text :=
  match k.opposite? with
  | some k' => if spellsFalse expected then (k', []) else (k, expected)
  | none => (k, expected)

end AssertionKind

end TestSkeleton
