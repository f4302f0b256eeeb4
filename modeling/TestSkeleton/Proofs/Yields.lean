set_option autoImplicit false

/-! # What steps come to

A step that can fail comes to a value or to an error. `Yields x P E` says that the value is as in
`P` and the error as in `E`, and `Ends x s P E` says the same of a step that also changes a state
`s`. Each way to put steps together has a rule, so that what a reader comes to follows from what its
steps come to; for a row of steps an invariant is enough (`Ends.mapM`, `Ends.forM`).
-/

namespace TestSkeleton

variable {σ ε α β : Type}

/-! ## Steps that can fail -/

/-- The step comes to a value as in `P` or to an error as in `E`. -/
structure Yields (x : Except ε α) (P : α → Prop) (E : ε → Prop) : Prop where
  of_ok : ∀ a, x = .ok a → P a
  of_error : ∀ e, x = .error e → E e

namespace Yields

variable {x : Except ε α} {f : α → Except ε β} {P Q : α → Prop} {R : β → Prop} {E F : ε → Prop}
  {a : α} {e : ε}

theorem ok (h : P a) : Yields (.ok a : Except ε α) P E where
  of_ok := by rintro a ⟨⟩; exact h
  of_error := nofun

theorem error (h : E e) : Yields (.error e : Except ε α) P E where
  of_ok := nofun
  of_error := by rintro e ⟨⟩; exact h

theorem mono (h : Yields x P E) (hP : ∀ a, P a → Q a) (hE : ∀ e, E e → F e) : Yields x Q F where
  of_ok a ha := hP a (h.of_ok a ha)
  of_error e he := hE e (h.of_error e he)

theorem bind (h : Yields x P E) (hf : ∀ a, P a → Yields (f a) R E) : Yields (x >>= f) R E := by
  cases x with
  | ok a => exact hf a (h.of_ok a rfl)
  | error e => exact .error (h.of_error e rfl)

theorem map {g : α → β} (h : Yields x (fun a => R (g a)) E) : Yields (x.map g) R E := by
  cases x with
  | ok a => exact .ok (h.of_ok a rfl)
  | error e => exact .error (h.of_error e rfl)

end Yields

/-! ## Steps that change a state -/

/-- From the state `s` on, the step comes to a value and a state as in `P` or to an error as in
`E`. -/
def Ends (x : StateT σ (Except ε) α) (s : σ) (P : α → σ → Prop) (E : ε → Prop) : Prop :=
  Yields (x s) (fun r => P r.1 r.2) E

namespace Ends

variable {x : StateT σ (Except ε) α} {f : α → StateT σ (Except ε) β} {s : σ} {P Q : α → σ → Prop}
  {R : β → σ → Prop} {E F : ε → Prop} {a : α} {e : ε} {I : σ → Prop}

theorem pure (h : P a s) : Ends (Pure.pure a : StateT σ (Except ε) α) s P E := .ok h

theorem throw (h : E e) : Ends (MonadExcept.throw e : StateT σ (Except ε) α) s P E := .error h

theorem get_bind {f : σ → StateT σ (Except ε) β} (h : Ends (f s) s R E) :
    Ends (get >>= f) s R E := h

theorem set {P : PUnit → σ → Prop} {s' : σ} (h : P ⟨⟩ s') :
    Ends (MonadStateOf.set s' : StateT σ (Except ε) PUnit) s P E := .ok h

theorem set_bind {s' : σ} {f : PUnit → StateT σ (Except ε) β} (h : Ends (f ⟨⟩) s' R E) :
    Ends (MonadStateOf.set s' >>= f) s R E := h

theorem modify_bind {g : σ → σ} {f : PUnit → StateT σ (Except ε) β} (h : Ends (f ⟨⟩) (g s) R E) :
    Ends ((modify g : StateT σ (Except ε) PUnit) >>= f) s R E := h

theorem modify {P : PUnit → σ → Prop} {g : σ → σ} (h : P ⟨⟩ (g s)) :
    Ends (modify g : StateT σ (Except ε) PUnit) s P E := .ok h

theorem lift {x : Except ε α} (h : Yields x (fun a => P a s) E) :
    Ends (liftM x : StateT σ (Except ε) α) s P E := by
  cases x with
  | ok a => exact .ok (h.of_ok a rfl)
  | error e => exact .error (h.of_error e rfl)

theorem mono (h : Ends x s P E) (hP : ∀ a s', P a s' → Q a s') (hE : ∀ e, E e → F e) :
    Ends x s Q F :=
  Yields.mono h (fun r hr => hP r.1 r.2 hr) hE

theorem bind (h : Ends x s P E) (hf : ∀ a s', P a s' → Ends (f a) s' R E) :
    Ends (x >>= f) s R E :=
  Yields.bind h fun r hr => hf r.1 r.2 hr

theorem map {g : α → β} (h : Ends x s (fun a s' => R (g a) s') E) : Ends (g <$> x) s R E :=
  Yields.bind h fun _ hr => .ok hr

theorem mapM {g : α → StateT σ (Except ε) β} {as : List α} (hs : I s)
    (h : ∀ a ∈ as, ∀ s, I s → Ends (g a) s (fun _ => I) E) :
    Ends (as.mapM g) s (fun _ => I) E := by
  induction as generalizing s with
  | nil => exact Ends.pure hs
  | cons a as ih =>
      obtain ⟨ha, has⟩ := List.forall_mem_cons.mp h
      rw [List.mapM_cons]
      exact (ha s hs).bind fun b s' hs' => (ih hs' has).bind fun bs s'' hs'' => Ends.pure hs''

theorem forM {g : α → StateT σ (Except ε) PUnit} {as : List α} (hs : I s)
    (h : ∀ a ∈ as, ∀ s, I s → Ends (g a) s (fun _ => I) E) :
    Ends (as.forM g) s (fun _ => I) E := by
  induction as generalizing s with
  | nil => exact Ends.pure hs
  | cons a as ih =>
      obtain ⟨ha, has⟩ := List.forall_mem_cons.mp h
      exact (ha s hs).bind fun b s' hs' => ih hs' has

end Ends

end TestSkeleton
