import TestSkeleton.Step

set_option autoImplicit false

/-! # The ends of steps

How a step ends follows from how its parts end: with the value of the first part the second one goes
on from the state that the first one has left, and with an error nothing more is done. What each
part does to the state, the whole does (`Keeps`).
-/

namespace TestSkeleton

theorem Outcome.eq_of_result {σ ε α : Type} {x : Outcome σ ε α} {r : Except ε α}
    (h : x.result = r) : x = ⟨x.state, r⟩ := by
  rw [← h]

namespace Step

variable {σ ε ε' α β : Type} {s : σ}

@[simp] theorem pure_apply (a : α) (s : σ) : (Pure.pure a : Step σ ε α) s = ⟨s, .ok a⟩ := rfl

@[simp] theorem ofExcept_apply (r : Except ε α) (s : σ) : ofExcept r s = ⟨s, r⟩ := rfl

@[simp] theorem fail_apply (e : ε) (s : σ) : (fail e : Step σ ε α) s = ⟨s, .error e⟩ := rfl

@[simp] theorem mapError_apply (f : ε → ε') (x : Step σ ε α) (s : σ) :
    x.mapError f s = ⟨(x s).state, (x s).result.mapError f⟩ := rfl

theorem bind_of_ok {x : Step σ ε α} {a : α} (h : (x s).result = .ok a) (f : α → Step σ ε β) :
    (x >>= f) s = f a (x s).state := by
  show Step.bind x f s = _
  rw [Step.bind, h]

theorem bind_of_error {x : Step σ ε α} {e : ε} (h : (x s).result = .error e)
    (f : α → Step σ ε β) : (x >>= f) s = ⟨(x s).state, .error e⟩ := by
  show Step.bind x f s = _
  rw [Step.bind, h]

theorem bind_pure_apply (x : Step σ ε α) (f : α → β) (s : σ) :
    (x >>= fun a => (Pure.pure (f a) : Step σ ε β)) s = ⟨(x s).state, (x s).result.map f⟩ := by
  cases h : (x s).result with
  | ok a => exact bind_of_ok h _
  | error e => exact bind_of_error h _

@[simp] theorem change_bind (f : σ → σ) (g : Unit → Step σ ε β) (s : σ) :
    (change f >>= g) s = g () (f s) := rfl

@[simp] theorem read_bind (f : σ → α) (g : α → Step σ ε β) (s : σ) :
    (read f >>= g) s = g (f s) s := rfl

/-- A step in two parts ends with a value just if both parts do. -/
theorem bind_eq_ok_iff {x : Step σ ε α} {f : α → Step σ ε β} {b : β} :
    ((x >>= f) s).result = .ok b
      ↔ ∃ a, (x s).result = .ok a ∧ (f a (x s).state).result = .ok b := by
  cases h : (x s).result with
  | ok a => simp [bind_of_ok h]
  | error e => simp [bind_of_error h]

/-- A step in two parts fails just if its first part does, or else the second one. -/
theorem bind_eq_error_iff {x : Step σ ε α} {f : α → Step σ ε β} {e : ε} :
    ((x >>= f) s).result = .error e ↔ (x s).result = .error e
      ∨ ∃ a, (x s).result = .ok a ∧ (f a (x s).state).result = .error e := by
  cases h : (x s).result with
  | ok a => simp [bind_of_ok h]
  | error e' => simp [bind_of_error h]

/-! ## What steps do to the state -/

/-- The step leaves a state that the relation holds for. -/
def Keeps (r : σ → σ → Prop) (x : Step σ ε α) : Prop := ∀ s, r s (x s).state

namespace Keeps

variable {r : σ → σ → Prop} {x : Step σ ε α} {f : α → Step σ ε β}

theorem of_state_eq (hrefl : ∀ s, r s s) (h : ∀ s, (x s).state = s) : x.Keeps r := fun s => by
  rw [h s]
  exact hrefl s

theorem mapError (hx : x.Keeps r) (g : ε → ε') : (x.mapError g).Keeps r := hx

theorem bind (htrans : ∀ {s t u}, r s t → r t u → r s u) (hx : x.Keeps r)
    (hf : ∀ a, (f a).Keeps r) : (x >>= f).Keeps r := by
  intro s
  cases h : (x s).result with
  | ok a =>
      rw [bind_of_ok h]
      exact htrans (hx s) (hf a _)
  | error e =>
      rw [bind_of_error h]
      exact hx s

end Keeps

end Step

end TestSkeleton
