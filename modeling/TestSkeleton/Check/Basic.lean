import TestSkeleton.Assertion.Kind
import TestSkeleton.Check.Comparison
import TestSkeleton.File.System
import TestSkeleton.Regex.Matching
import TestSkeleton.Regex.Reading
import TestSkeleton.Text.Shortened
import TestSkeleton.Text.Encoding
import TestSkeleton.Value.Printing

set_option autoImplicit false

/-! # Checks

What the assertions in a generated test do when the test runs. A check of a kind looks at an
expected and an actual value, and some look at the actual value alone. It passes, fails with a
reason, or is not possible for these values at all.

Most kinds come in pairs, of which one asks that a condition holds and the other that it does not.
-/

namespace TestSkeleton

open Text

namespace Check

/-- What checks can depend on besides their values. -/
structure Setting where
  declarations : Declarations := {}
  files : FileSystem := {}

/-- Why a check fails. -/
inductive Complaint where
  /-- For a reason in words, behind which the writer of a test can put a note. -/
  | because (reason : Text)
  /-- Because two texts or collections differ, in ways told line by line; this telling is not part
  of the library. -/
  | differs
  /-- Because the pattern to match is empty. -/
  | emptyPattern
deriving DecidableEq, Repr

/-- The complaint in words, with a note if there is one. -/
def Complaint.message? (note : Option Text) : Complaint → Option Text
  | because reason =>
    match note with
    | some n => some (reason ++ " : " ++ n)
    | none => some reason
  | differs => none
  | emptyPattern => some "expected_regex must not be empty."

/-- What a check comes to: a complaint, or nothing if it passes. -/
abbrev Verdict := Except Misuse (Option Complaint)

/-- Passes if the condition holds. -/
def require (condition : Except Misuse Bool) (complaint : Complaint) : Verdict := do
  return if ← condition then none else some complaint

/-- Passes if the condition does not hold. -/
def refuse (condition : Except Misuse Bool) (complaint : Complaint) : Verdict := do
  return if ← condition then some complaint else none

/-- The literals of two values with words between them. -/
def between (v : Value) (words : Text) (w : Value) : Complaint :=
  .because (v.literal ++ ' ' :: words ++ ' ' :: w.literal)

/-! ## Equality -/

/-- The types whose values are compared line by line if they differ. -/
def comparedByLines : List ClassRef :=
  ["list", "tuple", "dict", "set", "frozenset", "str"].map fun (n : String) => .builtin n.toList

/-- Whether two values are compared line by line if they differ. -/
def isComparedByLines (d : Declarations) (v w : Value) : Bool :=
  d.classOf v == d.classOf w && comparedByLines.contains (d.classOf v)

/-- The complaint about two values that differ. -/
def unequal (d : Declarations) (v w : Value) : Complaint :=
  if isComparedByLines d v w then .differs
  else
    let (s, t) := shortenPair v.literal w.literal
    .because (s ++ " != " ++ t)

/-- Passes if nothing is left of either of two sets without the members of the other one. Members
that cannot be compared are a difference. -/
def requireSameMembers (d : Declarations) (vs ws : List Value) : Verdict :=
  match d.leavesNothing vs ws, d.leavesNothing ws vs with
  | .ok true, .ok true => .ok none
  | _, _ => .ok (some .differs)

/-- Passes if two values are equal. If two rows differ, the first difference is looked for. Two sets
of one type are not asked if they are equal: their members are compared. -/
def requireEqual (d : Declarations) (v w : Value) : Verdict :=
  match v, w with
  | .set vs, .set ws | .frozenset vs, .frozenset ws => requireSameMembers d vs ws
  | v, w => do
    if ← d.equal v w then return none
    if isComparedByLines d v w then
      d.findDifference (v.sequence?.getD []) (w.sequence?.getD [])
    return some (unequal d v w)

/-! ## Keys -/

/-- The classes of mappings, of sequences, and of the sequences of characters. -/
def mappingClasses : List String := ["dict", "mappingproxy"]
def sequenceClasses : List String :=
  ["list", "tuple", "str", "bytes", "bytearray", "range", "memoryview"]
def characterClasses : List String := ["str", "bytes"]

/-- Whether a mapping has a key or a sequence a member of this number; nothing for other values. Of
the numbers only those from zero count, and a boolean is no number here. What an object says to be
its class counts. -/
def hasKey (d : Declarations) (container key : Value) : Except Misuse (Option Bool) := do
  let isClaim := match d.claim? container with
    | some (.cls _) | none => true
    | some _ => false
  if !isClaim || d.fails container "__getattribute__" then throw .wrongType
  if ← d.hasAnyClass container mappingClasses then return some (← d.contains container key)
  if !(← d.hasAnyClass container sequenceClasses) then return none
  if ← d.hasAnyClass container characterClasses then return none
  if ← d.hasAnyClass key ["bool"] then return some false
  if !(← d.hasAnyClass key ["int"]) then return some false
  if !(← d.relate .lessOrEqual (.int 0) key) then return some false
  return some (← d.relate .less key (.int (← d.size container)))

/-- The complaint about a value that has no keys. -/
def noKeys (container : Value) : Complaint :=
  .because (container.literal ++ " is not a mapping or sequence")

/-! ## Files -/

/-- The power of two that numbers of open files stay below. -/
def handleLimit : Int := 2147483648

/-- Whether there is a file or a directory at a path given as a text or in bytes. A number stands
for an open file; the first three are open. -/
def fileExists (files : FileSystem) (path : Value) : Except Misuse Bool :=
  match path.text?, path.bytes?, path.int? with
  | some t, _, _ => .ok (files.pathExists t)
  | _, some bs, _ => .ok ((decode? bs).any files.pathExists)
  | _, _, some n =>
    if n < -handleLimit || handleLimit ≤ n then .error .tooLarge else .ok (0 ≤ n && n < 3)
  | none, none, none => .error .wrongType

/-! ## Patterns -/

/-- The text or the bytes with these characters. -/
def ofCharacters (asBytes : Bool) (t : Text) : Value :=
  if asBytes then .bytes (t.map fun c => c.toNat.toUInt8) else .str t

/-- What a pattern matches first in a text, or a pattern of bytes in bytes. -/
def firstMatch (d : Declarations) (pattern text : Value) : Except Misuse (Option Value) := do
  let (forBytes, p) ←
    match pattern.text?, pattern.fixedBytes? with
    | some p, _ => .ok (false, p)
    | _, some bs => .ok (true, ofBytes bs)
    | none, none =>
      -- what looks like a pattern cannot be used as one
      if ← d.hasAnyClass pattern characterClasses then throw .wrongType
      if ← d.hasAttribute pattern "search".toList then throw .wrongType
      throw .noSuchAttribute
  let r ←
    match Regex.ofText forBytes p with
    | .ok r => .ok r
    | .error .malformed => .error .malformedPattern
    | .error .tooManyRepetitions => .error .tooLarge
  let t ←
    match if forBytes then text.bytes?.map ofBytes else text.text? with
    | some t => .ok t
    | none => .error .wrongType
  return (r.search forBytes t).map (ofCharacters forBytes)

/-- Whether a value is a text or bytes without any character. -/
def isEmptyPattern (v : Value) : Bool := v.text? == some [] || v.fixedBytes? == some []

/-- Fails unless a pattern matches somewhere. -/
def requireMatch (d : Declarations) (pattern text : Value) : Verdict :=
  if isEmptyPattern pattern then .ok (some .emptyPattern)
  else do
    match ← firstMatch d pattern text with
    | some _ => return none
    | none =>
      return some (.because ("Regex didn't match: " ++ pattern.literal ++ " not found in "
        ++ text.literal))

/-- Fails if a pattern matches somewhere. -/
def refuseMatch (d : Declarations) (pattern text : Value) : Verdict := do
  match ← firstMatch d pattern text with
  | some found =>
    return some (.because ("Regex matched: " ++ found.literal ++ " matches " ++ pattern.literal
      ++ " in " ++ text.literal))
  | none => return none

/-! ## Members -/

/-- Fails if there are members that are not of a type. -/
def requireAll (d : Declarations) (expected actual : Value) : Verdict := do
  let offending ← (← d.items actual).filterM fun v => return !(← d.isOfType v expected)
  return if offending.isEmpty then none
    else some (.because ((Value.list offending).literal ++ " are not of type " ++ expected.literal))

/-- Fails if there are members and all are of a type. -/
def refuseAll (d : Declarations) (expected actual : Value) : Verdict := do
  let vs ← d.items actual
  return if !vs.isEmpty && (← vs.allM fun v => d.isOfType v expected) then
      some (.because (actual.literal ++ " contains only type " ++ expected.literal))
    else none

/-! ## All kinds -/

/-- Whether a value has an attribute whose name is a value too. The name is looked up by its hash,
and what is found by an object that answers itself is not known. -/
def hasAttribute (d : Declarations) (v name : Value) : Except Misuse Bool :=
  match name.text? with
  | none => .error .wrongType
  | some n =>
    if d.fails name "__eq__" || d.fails name "__hash__" then .error .unknown
    else d.hasAttribute v n

/-- The check of each kind. No check stands for an exception. -/
def verdict? (s : Setting) (kind : AssertionKind) (expected actual : Value) : Option Verdict :=
  let d := s.declarations
  match kind with
  | .equals => some (requireEqual d actual expected)
  | .notEquals => some (require (d.differ actual expected) (between actual "==" expected))
  | .same =>
    some (require (d.same expected actual) (between actual "is not identical to" expected))
  | .notSame =>
    some (refuse (d.same expected actual) (between actual "is identical to" expected))
  | .greaterThan =>
    some (require (d.relate .greater actual expected) (between actual "not greater than" expected))
  | .greaterThanOrEqual =>
    some (require (d.relate .greaterOrEqual actual expected)
      (between actual "not greater than or equal to" expected))
  | .lessThan =>
    some (require (d.relate .less actual expected) (between actual "not less than" expected))
  | .lessThanOrEqual =>
    some (require (d.relate .lessOrEqual actual expected)
      (between actual "not less than or equal to" expected))
  | .exception => none
  | .empty => some (refuse (d.isTruthy actual) (.because (actual.literal ++ " is not empty")))
  | .notEmpty => some (require (d.isTruthy actual) (.because (actual.literal ++ " is empty")))
  | .instanceOf =>
    some (require (d.isInstance actual expected) (between actual "is not an instance of" expected))
  | .notInstanceOf =>
    some (refuse (d.isInstance actual expected) (between actual "is an instance of" expected))
  | .contains =>
    some (require (d.contains actual expected) (between expected "not found in" actual))
  | .notContains =>
    some (refuse (d.contains actual expected) (between expected "unexpectedly found in" actual))
  | .arrayHasKey => some do
    match ← hasKey d actual expected with
    | some holds => require (.ok holds) (between actual "has no key" expected)
    | none => return some (noKeys actual)
  | .arrayNotHasKey => some do
    match ← hasKey d actual expected with
    | some holds => refuse (.ok holds) (between actual "has key" expected)
    | none => return some (noKeys actual)
  | .objectHasAttribute =>
    some (require (hasAttribute d actual expected) (between actual "has no attribute" expected))
  | .objectNotHasAttribute =>
    some (refuse (hasAttribute d actual expected) (between actual "has attribute" expected))
  | .internalType =>
    some (require (d.isOfType actual expected) (between actual "is not of type" expected))
  | .notInternalType =>
    some (refuse (d.isOfType actual expected) (between actual "is of type" expected))
  | .containsOnly => some (requireAll d expected actual)
  | .notContainsOnly => some (refuseAll d expected actual)
  | .count => some do requireEqual d (.int (← d.size actual)) expected
  | .notCount => some do
    let n := Value.int (← d.size actual)
    require (d.differ n expected) (between n "==" expected)
  | .fileExists =>
    some (require (fileExists s.files actual)
      (.because ("File " ++ actual.literal ++ " does not exist")))
  | .fileNotExists =>
    some (refuse (fileExists s.files actual) (.because ("File " ++ actual.literal ++ " exists")))
  | .regExp => some (requireMatch d expected actual)
  | .notRegExp => some (refuseMatch d expected actual)

end Check

end TestSkeleton
