import TestSkeleton.Calendar
import TestSkeleton.CommandLine.Page
import TestSkeleton.Event
import TestSkeleton.Logger
import TestSkeleton.Step

set_option autoImplicit false

/-! # Machines

What the program works on: the files, the environment, the clock, the logger and the two streams of
output. Code of others that is carried out on the way works on the same machine, and can remember
more there.
-/

namespace TestSkeleton

open Text

/-- What a run finds and leaves. -/
structure Machine (μ : Type) where
  files : FileSystem
  /-- The directory with templates that holds if none is given. -/
  templateVariable : Option Text := none
  /-- The moment on the clock. -/
  now : Moment := { date := ⟨1970, 1, 1⟩, hour := 0, minute := 0, second := 0 }
  log : Logger := .initial
  /-- What has been written to the standard output. -/
  output : Text := []
  /-- What has been written to the standard error stream. -/
  messages : Text := []
  /-- What code of others remembers. -/
  memory : μ

namespace Machine

variable {μ : Type}

/-- Writes to the standard output. -/
def write (t : Text) (s : Machine μ) : Machine μ := { s with output := s.output ++ t }

/-- Writes to the standard error stream. -/
def complain (t : Text) (s : Machine μ) : Machine μ := { s with messages := s.messages ++ t }

/-- Tells of an event: what code has written is shown, and messages, all of which are details, go to
the logger. -/
def tell (e : Event) (s : Machine μ) : Machine μ :=
  match e.message? with
  | some message => s.complain (s.log.emit [] ⟨programName, Logger.debug, message⟩ s.files).1
  | none => s.write e.written

/-- Sets the logger up for a run. -/
def setUp (verbose : Bool) (s : Machine μ) : Machine μ :=
  let level := if verbose then Logger.debug else Logger.warning
  { s with log := (Logger.setup { level } s.log s.files).2.1 }

end Machine

/-- A logged computation as a step on a machine, which tells of the events. -/
def Logged.onMachine {μ ε α : Type} (x : Logged ε α) : Step (Machine μ) ε α := fun s =>
  ⟨x.events.foldl (fun s e => s.tell e) s, x.result⟩

end TestSkeleton
