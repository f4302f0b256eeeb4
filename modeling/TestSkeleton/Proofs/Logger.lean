import TestSkeleton.Logger
import TestSkeleton.Proofs.File.System

set_option autoImplicit false

/-! # What a setup leaves

A setup that returns is to leave the logger as `configured` by its settings, whatever came before
it. One that does anything does so, for it starts without handlers. But a setup with the settings of
the last success does nothing, and a setup that fails in between changes the logger and not the
memory of the last success. So the logger follows a setup that returns unless this one repeats a
success from before a failure (`FailedSince`), and then it stays as the failure has left it
(`follows_setup_iff`).
-/

namespace TestSkeleton

namespace Logger

/-! ## The settings in force -/

/-- The logger as a setup in the directory `cwd` is to leave it. -/
def configured (cwd : Location) (s : LogSettings) : Logger where
  level := s.level
  propagate := false
  handlers := .console s.level ::
    (s.file.map fun file => LogHandler.file s.level ((FilePath.ofText file).resolve cwd)).toList
  settings := some s

/-- The logger as a setup leaves it that fails at its file. -/
def brokenOff (s : LogSettings) (remembered : Option LogSettings) : Logger where
  level := s.level
  propagate := false
  handlers := [.console s.level]
  settings := remembered

theorem brokenOff_eq_configured_iff {cwd : Location} {f s : LogSettings} :
    brokenOff f (some s) = configured cwd s ↔ f.level = s.level ∧ s.file = none := by
  cases hfile : s.file with
  | none => simp [brokenOff, configured, hfile]
  | some file => simp [brokenOff, configured, hfile]

/-! ## One setup -/

variable {cwd : Location} {log log' : Logger} {fs fs' : FileSystem} {s f : LogSettings}

/-- All that a setup can do: nothing, what it is to do, or half of it. -/
theorem setup_cases {r : Except FileSystem.Failure Unit} (h : log.setup s fs = (r, log', fs')) :
    (r.isOk = true ∧ log.settings = some s ∧ log' = log) ∨
    (r.isOk = true ∧ log.settings ≠ some s ∧ log' = configured fs.current s) ∨
    (r.isOk = false ∧ log.settings ≠ some s ∧ log' = brokenOff s log.settings) := by
  unfold setup at h
  split at h
  next hsame =>
    cases h
    exact .inl ⟨rfl, by simpa using hsame, rfl⟩
  next hnew =>
    have hnew : log.settings ≠ some s := by simpa using hnew
    refine .inr ?_
    cases hfile : s.file with
    | none =>
        rw [hfile] at h
        cases h
        exact .inl ⟨rfl, hnew, by simp [configured, hfile]⟩
    | some file =>
        rw [hfile] at h
        have hcurrent : (fs.makeDirectories (FilePath.ofText file).parent
            (FilePath.ofText file).names.length).2.current = fs.current :=
          FileSystem.current_makeDirectories _ _
        rcases hmade : fs.makeDirectories (FilePath.ofText file).parent
          (FilePath.ofText file).names.length with ⟨_ | _, made⟩
        · simp only [hmade] at h
          cases h
          exact .inr ⟨rfl, hnew, rfl⟩
        · simp only [hmade] at h hcurrent
          rw [hcurrent] at h
          cases hopen : openFile ((FilePath.ofText file).resolve fs.current) made with
          | error _ =>
              rw [hopen] at h
              cases h
              exact .inr ⟨rfl, hnew, rfl⟩
          | ok opened =>
              rw [hopen] at h
              cases h
              exact .inl ⟨rfl, hnew, by simp [configured, hfile]⟩

/-! ## Setups one after another -/

/-- A call to set the logger up: the settings, and whether it returned normally. -/
structure SetupCall where
  settings : LogSettings
  returned : Bool
deriving DecidableEq, Repr

/-- The logger that comes of calls, of which the latest stands first. Between them anything may happen
to the files, but the current directory stays. -/
inductive Run (cwd : Location) : List SetupCall → Logger → Prop
  | start : Run cwd [] initial
  | call {calls : List SetupCall} {s : LogSettings} {log log' : Logger} {fs fs' : FileSystem}
      {r : Except FileSystem.Failure Unit} (h : Run cwd calls log) (hcwd : fs.current = cwd)
      (hcall : log.setup s fs = (r, log', fs')) : Run cwd (⟨s, r.isOk⟩ :: calls) log'

/-- The settings of the last call that returned. -/
def lastReturned (calls : List SetupCall) : Option LogSettings :=
  (calls.find? (·.returned)).map (·.settings)

/-- The setup with `s` was the last that returned when the one with `f` failed, and from then on it
was only repeated. -/
inductive FailedSince (s f : LogSettings) : List SetupCall → Prop
  | failed {calls : List SetupCall} (h : lastReturned calls = some s) :
      FailedSince s f (⟨f, false⟩ :: calls)
  | repeated {calls : List SetupCall} (h : FailedSince s f calls) :
      FailedSince s f (⟨s, true⟩ :: calls)

variable {calls : List SetupCall}

theorem FailedSince.lastReturned_eq (h : FailedSince s f calls) : lastReturned calls = some s := by
  cases h with
  | failed h => exact h
  | repeated => rfl

theorem failedSince_cons_iff {s₀ : LogSettings} :
    FailedSince s f (⟨s₀, true⟩ :: calls) ↔ s₀ = s ∧ FailedSince s f calls := by
  constructor
  · rintro (_ | h)
    exact ⟨rfl, h⟩
  · rintro ⟨rfl, h⟩
    exact .repeated h

/-- The logger remembers the last setup that returned. -/
theorem settings_of_run (h : Run cwd calls log) : log.settings = lastReturned calls := by
  induction h with
  | start => rfl
  | call _ _ hcall ih =>
      rcases setup_cases hcall with ⟨hok, hsame, rfl⟩ | ⟨hok, -, rfl⟩ | ⟨hfailed, -, rfl⟩
      case inl => simp [lastReturned, hok, hsame]
      case inr.inl => simp [lastReturned, hok, configured]
      case inr.inr => simpa [lastReturned, hfailed, brokenOff] using ih

/-- After a failure the logger stays as it is, for as long as the last success is repeated. -/
theorem brokenOff_of_run (h : Run cwd calls log) (hf : FailedSince s f calls) :
    log = brokenOff f (some s) := by
  induction h with
  | start => cases hf
  | call hrun _ hcall ih =>
      have hsettings := settings_of_run hrun
      rcases setup_cases hcall with ⟨hok, -, rfl⟩ | ⟨hok, hnew, -⟩ | ⟨hfailed, -, rfl⟩
      case inl =>
        rw [hok, failedSince_cons_iff] at hf
        exact ih hf.2
      case inr.inl =>
        -- these settings are the ones that are remembered, so the setup would have done nothing
        rw [hok, failedSince_cons_iff] at hf
        obtain ⟨rfl, hf⟩ := hf
        exact absurd (hsettings.trans hf.lastReturned_eq) hnew
      case inr.inr =>
        rw [hfailed] at hf
        cases hf with
        | failed hlast => rw [hsettings, hlast]

/-- Without such a failure the logger is as the last setup that returned is to leave it. -/
theorem configured_of_run (h : Run cwd calls log) (hs : lastReturned calls = some s)
    (hf : ∀ f, ¬ FailedSince s f calls) : log = configured cwd s := by
  induction h with
  | start => cases hs
  | @call calls s₀ _ _ _ _ _ hrun hcwd hcall ih =>
      have hsettings := settings_of_run hrun
      rcases setup_cases hcall with ⟨hok, hsame, rfl⟩ | ⟨hok, -, rfl⟩ | ⟨hfailed, -, -⟩
      case inl =>
        rw [hok] at hs hf
        obtain rfl : s₀ = s := by simpa [lastReturned] using hs
        exact ih (hsettings.symm.trans hsame) fun f hf' => hf f (.repeated hf')
      case inr.inl =>
        rw [hok] at hs
        obtain rfl : s₀ = s := by simpa [lastReturned] using hs
        rw [hcwd]
      case inr.inr =>
        -- the failure itself is one since the last success
        rw [hfailed] at hs hf
        exact absurd (.failed (by simpa [lastReturned] using hs)) (hf s₀)

/-- **When a logger follows its setup.** After a setup that returned, the logger is as its settings
say, unless the setup repeats the last success and another one has failed since then. In that case
the logger is what the failed one has left. -/
theorem follows_setup_iff (h : Run cwd (⟨s, true⟩ :: calls) log) :
    (log = configured cwd s ↔ ∀ f, FailedSince s f calls → f.level = s.level ∧ s.file = none) ∧
    ∀ f, FailedSince s f calls → log = brokenOff f (some s) := by
  have hbroken : ∀ f, FailedSince s f calls → log = brokenOff f (some s) :=
    fun f hf => brokenOff_of_run h (.repeated hf)
  refine ⟨⟨fun hlog f hf => ?_, fun hsame => ?_⟩, hbroken⟩
  · exact brokenOff_eq_configured_iff.mp ((hbroken f hf).symm.trans hlog)
  · by_cases hf : ∃ f, FailedSince s f calls
    · obtain ⟨f, hf⟩ := hf
      exact (hbroken f hf).trans (brokenOff_eq_configured_iff.mpr (hsame f hf))
    · exact configured_of_run h rfl fun f hf' => hf ⟨f, (failedSince_cons_iff.mp hf').2⟩

/-! ### A failure between two setups that are the same -/

def fileSettings : LogSettings := ⟨debug, some "a.log"⟩

/-- Settings for a file below the file of `fileSettings`. -/
def obstructedSettings : LogSettings := ⟨20, some "a.log/b.log"⟩

/-- The files once the logger writes to the file of `fileSettings`. -/
def loggedFiles : FileSystem := { entries := [([("a.log" : Text)], .file [])] }

theorem obstructed_run :
    Run [] [⟨fileSettings, true⟩, ⟨obstructedSettings, false⟩, ⟨fileSettings, true⟩]
      (brokenOff obstructedSettings (some fileSettings)) := by
  have hfirst : initial.setup fileSettings {} = (.ok (), configured [] fileSettings, loggedFiles) := by
    decide +kernel
  have hfailure : (configured [] fileSettings).setup obstructedSettings loggedFiles
      = (.error ⟨.alreadyExists, "a.log"⟩, brokenOff obstructedSettings (some fileSettings),
          loggedFiles) := by
    decide +kernel
  have hrepeated : (brokenOff obstructedSettings (some fileSettings)).setup fileSettings loggedFiles
      = (.ok (), brokenOff obstructedSettings (some fileSettings), loggedFiles) := by
    decide +kernel
  have hrun : Run [] [⟨fileSettings, true⟩] (configured [] fileSettings) := .call .start rfl hfirst
  have hrun : Run [] [⟨obstructedSettings, false⟩, ⟨fileSettings, true⟩]
      (brokenOff obstructedSettings (some fileSettings)) := .call hrun rfl hfailure
  exact .call hrun rfl hrepeated

/-- After the failure the first settings are asked for again, and not restored. -/
theorem fileSettings_not_restored :
    ∃ log, Run [] [⟨fileSettings, true⟩, ⟨obstructedSettings, false⟩, ⟨fileSettings, true⟩] log ∧
      log ≠ configured [] fileSettings := by
  have hfailed : FailedSince fileSettings obstructedSettings
      [⟨obstructedSettings, false⟩, ⟨fileSettings, true⟩] := .failed rfl
  obtain ⟨hiff, -⟩ := follows_setup_iff obstructed_run
  exact ⟨_, obstructed_run, fun hlog => absurd (hiff.mp hlog _ hfailed).1 (by decide)⟩

/-- A setup that returns need not leave the logger as its settings say. -/
theorem setup_not_followed :
    ¬ ∀ (cwd : Location) (calls : List SetupCall) (s : LogSettings) (log : Logger),
      Run cwd (⟨s, true⟩ :: calls) log → log = configured cwd s := by
  intro h
  have hlog : brokenOff obstructedSettings (some fileSettings) = configured [] fileSettings :=
    h _ _ _ _ obstructed_run
  exact absurd hlog (by decide +kernel)

end Logger

end TestSkeleton
