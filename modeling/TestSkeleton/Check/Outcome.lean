import TestSkeleton.Check.Basic

set_option autoImplicit false

/-! # Outcomes of assertions

A generated test calls an assertion with its values and perhaps a note, which may follow the values
or be given apart from them. A call with another number of values is a misuse, as is one of an
assertion that does not exist.

A test that is not written yet is skipped by a call of its own.
-/

namespace TestSkeleton.Check

/-- How a call ends. -/
inductive Outcome where
  | passed
  /-- The message is absent if it is a telling line by line. -/
  | failed (message : Option Text)
  | skipped (message : Text)
  | broken (m : Misuse)
deriving DecidableEq, Repr

/-- A note as a text. -/
def noteText (d : Declarations) : Option Value → Except Misuse (Option Text)
  | none | some .none => .ok none
  | some v => (d.textOf v).map some

/-- The outcome of a check with a note, which is read if the check fails. -/
def Outcome.ofVerdict (d : Declarations) (note : Option Value) : Verdict → Outcome
  | .ok none => passed
  | .ok (some complaint) =>
    match noteText d note with
    | .ok note => failed (complaint.message? note)
    | .error m => broken m
  | .error m => broken m

/-- The values of a call apart from the note behind them. No note can be given twice. -/
def separateNote (count : Nat) (values : List Value) (note : Option Value) :
    Option (List Value × Option Value) :=
  if values.length == count then some (values, note)
  else
    match values.drop count, note with
    | [n], none => some (values.take count, some n)
    | _, _ => none

/-- Calls the assertion of a kind. -/
def assertion (s : Setting) (kind : AssertionKind) (values : List Value) (note : Option Value) :
    Outcome :=
  let call (expected actual : Value) (note : Option Value) : Outcome :=
    match verdict? s kind expected actual with
    | some v => .ofVerdict s.declarations note v
    | none => .broken .noSuchAttribute
  match separateNote (if kind.isUnary then 1 else 2) values note with
  | some ([actual], note) => call .none actual note
  | some ([expected, actual], note) => call expected actual note
  | _ => .broken .wrongType

/-- Skips a test that is not written yet. -/
def skipIncomplete (d : Declarations) (values : List Value) (note : Option Value) : Outcome :=
  match values, note with
  | [], none => .skipped "Incomplete"
  | [v], none =>
    let message : Except Misuse Text := do
      if !(← d.isTruthy v) then return "Incomplete"
      if d.fails v "__format__" then throw .wrongType
      return "Incomplete: " ++ (← d.textOf v)
    match message with
    | .ok t => .skipped t
    | .error m => .broken m
  | _, _ => .broken .wrongType

end TestSkeleton.Check
