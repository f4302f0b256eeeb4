import TestSkeleton.Assertion.Template

set_option autoImplicit false

/-! # Events

What the program does on its way is told in events, each with a message for those who want to
follow. Code that is carried out on the way can write texts, which are events without a message. A
`Logged` result carries the events up to its end, be it a value or an error.
-/

namespace TestSkeleton

open Text

/-- A step worth telling. -/
inductive Event where
  /-- The methods of a class that tests are generated for were counted. -/
  | methodsCounted (className : Text) (eligible total : Nat)
  | tagsFound (count : Nat) (className method : Text)
  | methodRendering (name : Text) (template : TemplateKind)
  | templateRendering (file : Text)
  | descriptionRead (className : Text) (methods : Nat) (origin : Text)
  | classLoaded (className module : Text)
  | generating (className : Text) (methods : Nat)
  | fileWritten (characters : Nat) (path : Text)
  /-- Code that is carried out has written a text to the standard output. -/
  | textWritten (t : Text)
deriving DecidableEq, Repr

namespace Event

/-- The message of an event, if it has one. -/
def message? : Event → Option Text
  | methodsCounted className eligible total =>
    some (className ++ ": " ++ ofNat eligible ++ " of " ++ ofNat total ++ " methods eligible")
  | tagsFound count className method =>
    some ("Found " ++ ofNat count ++ " @assert tag(s) on " ++ className ++ ['.'] ++ method)
  | methodRendering name template =>
    some ("Rendering test" ++ name ++ " with " ++ template.name ++ " template")
  | templateRendering file => some ("Rendering template " ++ file)
  | descriptionRead className methods origin =>
    some ("Read class " ++ className ++ " (" ++ ofNat methods ++ " methods) from " ++ origin)
  | classLoaded className module =>
    some ("Loaded class " ++ className ++ " from module " ++ module)
  | generating className methods =>
    some ("Generating tests for " ++ className ++ " (" ++ ofNat methods ++ " methods)")
  | fileWritten characters path =>
    some ("Wrote " ++ ofNat characters ++ " characters to " ++ path)
  | textWritten _ => none

/-- What code has written with an event. -/
def written : Event → Text
  | textWritten t => t
  | _ => []

end Event

/-- A result with the events that led to it. -/
structure Logged (ε α : Type) where
  events : List Event := []
  result : Except ε α

namespace Logged

/-- A value without events. -/
def pure {ε α : Type} (a : α) : Logged ε α := ⟨[], .ok a⟩

/-- Goes on with the value, if there is one. -/
def bind {ε α β : Type} (x : Logged ε α) (f : α → Logged ε β) : Logged ε β :=
  match x.result with
  | .ok a =>
    let y := f a
    ⟨x.events ++ y.events, y.result⟩
  | .error e => ⟨x.events, .error e⟩

instance {ε : Type} : Monad (Logged ε) where
  pure := Logged.pure
  bind := Logged.bind

/-- A result without events. -/
def ofExcept {ε α : Type} (r : Except ε α) : Logged ε α := ⟨[], r⟩

instance {ε : Type} : MonadLift (Except ε) (Logged ε) := ⟨ofExcept⟩

/-- An error. -/
def fail {ε α : Type} (e : ε) : Logged ε α := ⟨[], .error e⟩

/-- Events before a result. -/
def after {ε α : Type} (events : List Event) (x : Logged ε α) : Logged ε α :=
  ⟨events ++ x.events, x.result⟩

/-- One event. -/
def tell {ε : Type} (e : Event) : Logged ε Unit := ⟨[e], .ok ()⟩

/-- The same result with its error as an error of another type. -/
def mapError {ε ε' α : Type} (f : ε → ε') (x : Logged ε α) : Logged ε' α :=
  ⟨x.events, x.result.mapError f⟩

/-- What code has written on the way to a result. -/
def written {ε α : Type} (x : Logged ε α) : Text := x.events.flatMap Event.written

end Logged

end TestSkeleton
