import TestSkeleton.Proofs.Machine
import TestSkeleton.Proofs.Result
import TestSkeleton.Source.Loading

set_option autoImplicit false

/-! # Loading from known code

Known modules are carried out one behind the other, and what each of them keeps is kept by all
(`importAll_keeps`, `importNamed_keeps`). A file is carried out behind all of them
(`runFile_of_source`). A loaded class is one of a module that was carried out, from a file or by its
name (`exists_of_load`).
-/

namespace TestSkeleton

open Text

/-- A file has to be there before anything is carried out. -/
theorem Interpreter.fileModule_apply {μ : Type} (i : Interpreter (Machine μ)) (path : FilePath)
    (s : Machine μ) :
    i.fileModule path s
      = match s.files.read path.toText with
        | .error .nameTooLong => ⟨s, .error (.unreadableFile ⟨.nameTooLong, path.toText⟩)⟩
        | .error _ => ⟨s, .error (.notAFile path.toText)⟩
        | .ok _ =>
          ((i.importFile (CodeBase.filePackage ++ path.stem) path).mapError
            (.ofFile path.toText)) s := by
  unfold Interpreter.fileModule
  rw [Step.read_bind]
  cases s.files.read path.toText with
  | ok bytes => rfl
  | error f => cases f <;> rfl

namespace CodeBase

variable {b : CodeBase} {x y : Execution} {P : Execution → Prop}

/-! ## Modules -/

/-- What every module keeps is kept by several. -/
theorem importAll_keeps
    (hrun : ∀ x y name m, P x → (b.runNamed x name m).result = .ok y → P y)
    (ms : List (Text × SourceModule)) (hx : P x) : P (b.importAll x ms) := by
  induction ms generalizing x with
  | nil => exact hx
  | cons m ms ih =>
      rw [importAll]
      split
      next => exact ih hx
      next y hy => exact ih (hrun _ _ _ _ hx hy)

/-- It is kept when a module is imported by its name, if the names do not matter to it. -/
theorem importNext_keeps
    (hrun : ∀ x y name m, P x → (b.runNamed x name m).result = .ok y → P y)
    (hnames : ∀ x names, P x → P { x with globals := names }) {name : Text}
    (h : (b.importNext x name).result = .ok y) (hx : P x) : P y := by
  unfold importNext at h
  split at h
  next => cases h; exact hnames _ _ hx
  next => exact hrun _ _ _ _ hx h
  next =>
    obtain ⟨-, -, hpure⟩ := Logged.result_bind_eq_ok_iff.mp h
    cases hpure
    exact hnames _ _ hx

theorem foldlM_importNext_keeps
    (hrun : ∀ x y name m, P x → (b.runNamed x name m).result = .ok y → P y)
    (hnames : ∀ x names, P x → P { x with globals := names }) {names : List Text}
    (h : (names.foldlM b.importNext x).result = .ok y) (hx : P x) : P y := by
  induction names generalizing x with
  | nil => cases h; exact hx
  | cons name names ih =>
      obtain ⟨z, hz, h⟩ := Logged.result_bind_eq_ok_iff.mp h
      exact ih h (importNext_keeps hrun hnames hz hx)

theorem importNamed_keeps
    (hrun : ∀ x y name m, P x → (b.runNamed x name m).result = .ok y → P y)
    (hnames : ∀ x names, P x → P { x with globals := names }) {name : Text}
    (h : (b.importNamed name).result = .ok y) (hx : P b.known) : P y := by
  unfold importNamed at h
  extract_lets unknown at h
  split at h
  next => exact importNext_keeps hrun hnames h hx
  next => exact foldlM_importNext_keeps hrun hnames h hx

/-! ## Files -/

/-- Where a module from a file comes from. -/
def fileOrigin (b : CodeBase) (path : FilePath) : Execution.Origin :=
  { name := filePackage ++ path.stem, file? := some (b.fullPath path), isRead := true }

/-- What comes of the module in a file of source code. -/
def runSource (b : CodeBase) (path : FilePath) : Logged FileImportFault Execution :=
  (Execution.run b.known.knows b.known (b.fileOrigin path) (b.moduleAt path.toText)).mapError
    fileFault

theorem importFile_of_source {path : FilePath}
    (hmachine : endsWith machineExtension path.toText = false)
    (hsource : endsWith sourceExtension path.toText = true) :
    b.importFile (filePackage ++ path.stem) path = b.runSource path := by
  unfold importFile
  simp only [hmachine, hsource]
  rfl

/-- What is carried out of a file of source code. -/
theorem runFile_of_source {path : FilePath} {bytes : List UInt8}
    (hread : b.files.read path.toText = .ok bytes)
    (hmachine : endsWith machineExtension path.toText = false)
    (hsource : endsWith sourceExtension path.toText = true) :
    b.runFile path
      = ((b.runSource path).mapError (LoadError.ofFile path.toText)).onMachine b.machine := by
  rw [runFile, Interpreter.fileModule_apply, show b.machine.files = b.files from rfl, hread,
    Logged.onMachine_mapError, ← importFile_of_source hmachine hsource]
  rfl

/-- A file that is carried out to its end is one of source code. -/
theorem exists_of_importFile {module : Text} {path : FilePath}
    (h : (b.importFile module path).result = .ok y) :
    (Execution.run b.known.knows b.known ⟨module, some (b.fullPath path), true⟩
      (b.moduleAt path.toText)).result = .ok y := by
  unfold importFile at h
  extract_lets name at h
  split at h
  next => cases h
  next =>
    split at h
    next => exact Logged.result_mapError_eq_ok_iff.mp h
    next => split at h <;> cases h

theorem exists_of_fileModule {path : FilePath} {s : Machine Unit}
    (h : (b.interpreter.fileModule path s).result = .ok y) :
    ((b.onMachine s).importFile (filePackage ++ path.stem) path).result = .ok y := by
  rw [Interpreter.fileModule_apply] at h
  split at h
  next => cases h
  next => cases h
  next => exact mapError_eq_ok_iff.mp h

theorem exists_of_runFile {path : FilePath} (h : (b.runFile path).result = .ok y) :
    (Execution.run b.known.knows b.known (b.fileOrigin path) (b.moduleAt path.toText)).result
      = .ok y := by
  rw [runFile] at h
  exact exists_of_importFile (b := b.onMachine b.machine) (exists_of_fileModule h)

/-! ## Classes -/

theorem exists_of_classIn {name : Text} {c : SourceClass}
    (h : (classIn x name).result = .ok (some c)) : ∃ self, c = x.sourceClass self := by
  obtain ⟨found?, -, h⟩ := Logged.result_bind_eq_ok_iff.mp h
  cases found? with
  | none => cases h
  | some found =>
      cases found with
      | cls self => cases h; exact ⟨self, rfl⟩
      | object | property =>
          obtain ⟨claim?, -, h⟩ := Logged.result_bind_eq_ok_iff.mp h
          cases claim? with
          | none => cases h
          | some k =>
              dsimp only at h
              split at h <;> cases h
      | _ => cases h

/-- A class is what its module has under the last part of its name. -/
theorem exists_of_classNamed {className : Text} {c : SourceClass} {s : Machine Unit}
    (h : (b.interpreter.classNamed x className s).result = .ok c) :
    ∃ self, c = x.sourceClass self := by
  obtain ⟨found?, hfound, h⟩ := Step.bind_eq_ok_iff.mp h
  cases found? with
  | some found =>
      obtain ⟨title, -, h⟩ := Step.bind_eq_ok_iff.mp h
      obtain ⟨module, -, h⟩ := Step.bind_eq_ok_iff.mp h
      cases h
      exact exists_of_classIn (mapError_eq_ok_iff.mp hfound)
  | none =>
      obtain ⟨module, -, h⟩ := Step.bind_eq_ok_iff.mp h
      cases h

/-- A class that a module has under the last part of a name is what the name stands for. -/
theorem result_classNamed {className : Text} {c : SourceClass}
    (h : (classIn x (lastPart className)).result = .ok (some c)) (s : Machine Unit) :
    (b.interpreter.classNamed x className s).result = .ok c := by
  have hfound : ((b.interpreter.classIn x (lastPart className)).mapError LoadError.raised s).result
      = .ok (some c) := mapError_eq_ok_iff.mpr h
  refine Step.bind_eq_ok_iff.mpr ⟨some c, hfound, ?_⟩
  rfl

/-- **A loaded class** is one of a module from a file, or of one that was imported by its name. -/
theorem exists_of_load {r : ClassRequest} {c : SourceClass} (h : (b.load r).result = .ok c) :
    ∃ x self, c = x.sourceClass self
      ∧ ((∃ path, (b.runFile path).result = .ok x)
        ∨ ∃ module, (b.importModule module).result = .ok x) := by
  obtain ⟨className, sourceFile⟩ := r
  unfold load Interpreter.load at h
  split at h
  next => cases h
  next =>
    cases sourceFile with
    | some path =>
        obtain ⟨x, hx, h⟩ := Step.bind_eq_ok_iff.mp h
        obtain ⟨name?, -, h⟩ := Step.bind_eq_ok_iff.mp h
        obtain ⟨name, -, h⟩ := Step.bind_eq_ok_iff.mp h
        obtain ⟨self, hself⟩ := exists_of_classNamed h
        exact ⟨x, self, hself, .inl ⟨path, hx⟩⟩
    | none =>
        generalize cutLast? '.' className = cut at h
        match cut, h with
        | some (c :: module, _), h =>
          obtain ⟨x, hx, h⟩ := Step.bind_eq_ok_iff.mp h
          obtain ⟨self, hself⟩ := exists_of_classNamed h
          exact ⟨x, self, hself, .inr ⟨c :: module, mapError_eq_ok_iff.mp hx⟩⟩
        | none, h => cases h
        | some ([], _), h => cases h

/-! ## Classes of files -/

/-- Carrying out a file changes none. -/
theorem files_fileModule (b : CodeBase) (path : FilePath) (s : Machine Unit) :
    (b.interpreter.fileModule path s).state.files = s.files := by
  rw [Interpreter.fileModule_apply]
  split
  next => rfl
  next => rfl
  next => exact Logged.onMachine_files _ _

/-- A class of a file is looked for by the name that the file is asked for, which is read in the file
as it was before. -/
theorem load_of_file {className : Text} {path : FilePath} (hname : className ≠ []) :
    b.load ⟨className, some path⟩
      = match (b.runFile path).result with
        | .error e => ⟨(b.runFile path).state, .error e⟩
        | .ok x =>
          match ClassRequest.nameIn ⟨className, some path⟩ b.files path with
          | .error e => ⟨(b.runFile path).state, .error e⟩
          | .ok name => b.interpreter.classNamed x name (b.runFile path).state := by
  have hfiles : (b.runFile path).state.files = b.files := b.files_fileModule path b.machine
  unfold load Interpreter.load
  rw [if_neg (by simpa using hname)]
  cases hrun : (b.runFile path).result with
  | error e => exact Step.bind_of_error hrun _
  | ok x =>
      refine (Step.bind_of_ok hrun _).trans ?_
      show ((Step.ofExcept (ClassRequest.nameIn _ (b.runFile path).state.files path) >>= _)
        (b.runFile path).state) = _
      rw [hfiles]
      cases ClassRequest.nameIn ⟨className, some path⟩ b.files path <;> rfl

end CodeBase

end TestSkeleton
