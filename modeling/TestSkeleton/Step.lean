set_option autoImplicit false

/-! # Steps

A step starts in a state and ends in one, with a value or an error. What was done to the state
before an error stays done.
-/

namespace TestSkeleton

/-- The end of a step. -/
structure Outcome (σ ε α : Type) where
  state : σ
  result : Except ε α

/-- A step from a state. -/
def Step (σ ε α : Type) : Type := σ → Outcome σ ε α

namespace Step

variable {σ ε ε' α β : Type}

/-- A value without a change. -/
def pure (a : α) : Step σ ε α := fun s => ⟨s, .ok a⟩

/-- An error without a change. -/
def fail (e : ε) : Step σ ε α := fun s => ⟨s, .error e⟩

/-- Goes on with the value, if there is one. -/
def bind (x : Step σ ε α) (f : α → Step σ ε β) : Step σ ε β := fun s =>
  match (x s).result with
  | .ok a => f a (x s).state
  | .error e => ⟨(x s).state, .error e⟩

instance : Monad (Step σ ε) where
  pure := Step.pure
  bind := Step.bind

/-- A result without a change. -/
def ofExcept (r : Except ε α) : Step σ ε α := fun s => ⟨s, r⟩

instance : MonadLift (Except ε) (Step σ ε) := ⟨ofExcept⟩

/-- What can be seen of the state. -/
def read (f : σ → α) : Step σ ε α := fun s => ⟨s, .ok (f s)⟩

/-- A change of the state. -/
def change (f : σ → σ) : Step σ ε Unit := fun s => ⟨f s, .ok ()⟩

/-- The same step with its error as an error of another type. -/
def mapError (f : ε → ε') (x : Step σ ε α) : Step σ ε' α := fun s =>
  ⟨(x s).state, (x s).result.mapError f⟩

end Step

end TestSkeleton
