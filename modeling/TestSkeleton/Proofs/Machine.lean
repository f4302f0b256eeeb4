import TestSkeleton.Machine
import TestSkeleton.Proofs.Event
import TestSkeleton.Proofs.Step

set_option autoImplicit false

/-! # What events do to a machine

Telling of an event adds to the two streams of output and leaves all else as it is. So what a logged
computation does to a machine is to write its texts, and no part of it finds other files than those
before: what does as such computations do, with these files, does so too in parts
(`Logged.bind_eq_onMachine`).
-/

namespace TestSkeleton

open Text

namespace Machine

variable {μ : Type} {e : Event} {s : Machine μ} {es : List Event}

theorem tell_eq (e : Event) (s : Machine μ) :
    s.tell e = { s with output := s.output ++ e.written, messages := (s.tell e).messages } := by
  unfold tell
  cases e <;> simp [Event.message?, Event.written, write, complain]

/-- **What events do** is to write their texts and to leave messages. -/
theorem foldl_tell_eq (es : List Event) (s : Machine μ) :
    es.foldl (fun s e => s.tell e) s
      = { s with output := s.output ++ es.flatMap Event.written,
                 messages := (es.foldl (fun s e => s.tell e) s).messages } := by
  induction es generalizing s with
  | nil => simp
  | cons e es ih =>
      rw [List.foldl_cons, ih, tell_eq]
      simp

end Machine

/-! ## Messages -/

namespace Machine

variable {μ : Type} {s s' s'' : Machine μ}

/-- Nothing was done but to speak: no more than the logger and the standard error stream may have
changed. -/
def Speaks (s s' : Machine μ) : Prop := ∃ log messages, s' = { s with log, messages }

namespace Speaks

theorem refl (s : Machine μ) : s.Speaks s := ⟨_, _, rfl⟩

theorem complain (t : Text) (s : Machine μ) : s.Speaks (s.complain t) := ⟨_, _, rfl⟩

theorem setUp (verbose : Bool) (s : Machine μ) : s.Speaks (s.setUp verbose) := ⟨_, _, rfl⟩

theorem tell {e : Event} (h : e.written = []) (s : Machine μ) : s.Speaks (s.tell e) := by
  rw [tell_eq, h, List.append_nil]
  exact ⟨_, _, rfl⟩

theorem files (h : s.Speaks s') : s'.files = s.files := by
  obtain ⟨log, messages, rfl⟩ := h
  rfl

theorem output (h : s.Speaks s') : s'.output = s.output := by
  obtain ⟨log, messages, rfl⟩ := h
  rfl

end Speaks

end Machine

namespace Logged

variable {μ ε ε' α β : Type} {x : Logged ε α} {s : Machine μ}

@[simp] theorem result_onMachine (x : Logged ε α) (s : Machine μ) :
    (x.onMachine s).result = x.result := rfl

theorem onMachine_eq (x : Logged ε α) (s : Machine μ) :
    (x.onMachine s).state
      = { s with output := s.output ++ x.written, messages := (x.onMachine s).state.messages } :=
  Machine.foldl_tell_eq x.events s

@[simp] theorem onMachine_files (x : Logged ε α) (s : Machine μ) :
    (x.onMachine s).state.files = s.files := by
  rw [onMachine_eq]

theorem IsSilent.speaks (h : x.IsSilent) (s : Machine μ) : s.Speaks (x.onMachine s).state := by
  rw [onMachine_eq, h, List.append_nil]
  exact ⟨_, _, rfl⟩

theorem onMachine_mapError (f : ε → ε') (x : Logged ε α) :
    (x.mapError f).onMachine (μ := μ) = x.onMachine.mapError f := rfl

/-- A computation in two steps is one step behind the other on the machine. -/
theorem onMachine_bind (x : Logged ε α) (f : α → Logged ε β) (s : Machine μ) :
    (x >>= f).onMachine s = (x.onMachine >>= fun a => (f a).onMachine) s := by
  cases h : x.result with
  | ok a =>
      rw [Step.bind_of_ok (a := a) h]
      show (Logged.bind x f).onMachine s = _
      simp only [Logged.bind, h, onMachine, List.foldl_append]
  | error e =>
      rw [Step.bind_of_error h]
      show (Logged.bind x f).onMachine s = _
      simp only [Logged.bind, h, onMachine]

/-- What does as logged computations do, with these files, does so one part behind the other. -/
theorem bind_eq_onMachine {fs : FileSystem} {y : Step (Machine μ) ε α} {f : α → Logged ε β}
    {g : α → Step (Machine μ) ε β} (hs : s.files = fs) (hy : y s = x.onMachine s)
    (hg : ∀ a (s : Machine μ), s.files = fs → g a s = (f a).onMachine s) :
    (y >>= g) s = (x >>= f).onMachine s := by
  have hresult : (y s).result = x.result := by rw [hy, result_onMachine]
  rw [onMachine_bind]
  cases h : x.result with
  | ok a =>
      rw [Step.bind_of_ok (hresult.trans h), Step.bind_of_ok (a := a) h, hy]
      exact hg a _ ((onMachine_files x s).trans hs)
  | error e => rw [Step.bind_of_error (hresult.trans h), Step.bind_of_error h, hy]

end Logged

end TestSkeleton
