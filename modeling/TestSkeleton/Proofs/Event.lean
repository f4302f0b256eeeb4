import TestSkeleton.Event
import TestSkeleton.Proofs.Result

set_option autoImplicit false

/-! # The results of logged computations

What a computation results in does not depend on the events it tells. The first lemmas take `result`
through the operations on `Logged`, so that proofs about results need not look at events. The second
half is about the texts among the events: a computation that carries no code out writes none
(`IsSilent`), and behind it only the texts of what came before are left.
-/

namespace TestSkeleton.Logged

variable {ε ε' α β : Type}

/-! ## Results -/

@[simp] theorem result_pure (a : α) : (Pure.pure a : Logged ε α).result = .ok a := rfl

@[simp] theorem result_fail (e : ε) : (fail e : Logged ε α).result = .error e := rfl

@[simp] theorem result_ofExcept (r : Except ε α) : (ofExcept r).result = r := rfl

@[simp] theorem result_after (events : List Event) (x : Logged ε α) :
    (after events x).result = x.result := rfl

@[simp] theorem result_mapError (f : ε → ε') (x : Logged ε α) :
    (x.mapError f).result = x.result.mapError f := rfl

/-- What cannot fail hands its value on. -/
theorem ofExcept_ok_bind (a : α) (f : α → Logged ε β) :
    ((liftM (Except.ok a : Except ε α) : Logged ε α) >>= f) = f a := rfl

theorem result_bind_of_ok {x : Logged ε α} {a : α} (h : x.result = .ok a) (f : α → Logged ε β) :
    (x >>= f).result = (f a).result := by
  show (Logged.bind x f).result = _
  rw [Logged.bind, h]

theorem result_bind_of_error {x : Logged ε α} {e : ε} (h : x.result = .error e)
    (f : α → Logged ε β) : (x >>= f).result = .error e := by
  show (Logged.bind x f).result = _
  rw [Logged.bind, h]

theorem result_bind (x : Logged ε α) (f : α → Logged ε β) :
    (x >>= f).result = x.result >>= fun a => (f a).result := by
  cases h : x.result with
  | ok a => exact result_bind_of_ok h f
  | error e => exact result_bind_of_error h f

theorem result_bind_pure (x : Logged ε α) (f : α → β) :
    (x >>= fun a => (Pure.pure (f a) : Logged ε β)).result = x.result.map f := by
  cases h : x.result with
  | ok a => exact result_bind_of_ok h _
  | error e => exact result_bind_of_error h _

/-- A computation in two steps yields a value just if both steps do. -/
theorem result_bind_eq_ok_iff {x : Logged ε α} {f : α → Logged ε β} {b : β} :
    (x >>= f).result = .ok b ↔ ∃ a, x.result = .ok a ∧ (f a).result = .ok b := by
  cases h : x.result with
  | ok a => simp [result_bind_of_ok h]
  | error e => simp [result_bind_of_error h]

theorem exists_result_of_isOk {x : Logged ε α} (h : x.result.isOk = true) :
    ∃ a, x.result = .ok a := exists_of_isOk h

theorem result_mapError_eq_ok_iff {f : ε → ε'} {x : Logged ε α} {a : α} :
    (x.mapError f).result = .ok a ↔ x.result = .ok a := mapError_eq_ok_iff

/-! ## Texts -/

/-- No code has written a text on the way to the result. -/
def IsSilent (x : Logged ε α) : Prop := x.written = []

namespace IsSilent

theorem pure (a : α) : (Pure.pure a : Logged ε α).IsSilent := rfl

theorem fail (e : ε) : (Logged.fail e : Logged ε α).IsSilent := rfl

theorem after {e : Event} {x : Logged ε α} (h : e.written = []) (hx : x.IsSilent) :
    (Logged.after [e] x).IsSilent := by
  show (e :: x.events).flatMap Event.written = []
  rw [List.flatMap_cons, h, List.nil_append]
  exact hx

end IsSilent

end TestSkeleton.Logged
