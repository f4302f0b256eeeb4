import TestSkeleton.Proofs.CommandLine.Generation
import TestSkeleton.Proofs.File.System
import TestSkeleton.Proofs.Text.Terminal

set_option autoImplicit false

/-! # How runs end

A request is fulfilled, or it fails with an error. Whatever code there is outside of the program, the
exit status is zero just if the tests are where they were asked for, one just if a doc comment or a
tag is in error or code of others claims so, and two for the other errors that the program foresees;
and then there is a message. Other errors break the run off, unless code of others ends it with a
status of its own. All this is `exit_status_law`. That runs break off is real, though every failure is
meant to end with the status two: a file that cannot be written is enough
(`obstructedFile_breaks_off`).
-/

namespace TestSkeleton

open Text

/-- The exit status with which a run ends, if it is not broken off or ended by code of others. -/
def Ending.status? : Ending → Option Nat
  | exit status => some status
  | ended _ | broken _ | unknown => none

theorem Ending.eq_exit_iff {ending : Ending} {status : Nat} :
    ending = .exit status ↔ ending.status? = some status := by
  cases ending <;> simp [status?]

/-! ## Errors -/

namespace RunError

/-- A fault of a template that the program does not foresee. -/
inductive IsUnforeseenFault : RenderFault → Prop
  | undecodable : IsUnforeseenFault .undecodable
  | malformed : IsUnforeseenFault .malformed
  | reservedName : IsUnforeseenFault .reservedName
  | partNotFound : IsUnforeseenFault .partNotFound
  | ending (c : Text) (status : Nat) (message : Text) :
      IsUnforeseenFault (.raised (.ending c status message))
  | other (c : Text) : IsUnforeseenFault (.raised (.other c))

/-- The error is one that the program is known not to foresee. -/
inductive IsUnforeseen : RunError → Prop
  | description (f : UnforeseenFault) : IsUnforeseen (.description (.unforeseen f))
  | docNotText : IsUnforeseen (.load .docNotText)
  | moduleNotText : IsUnforeseen (.load .moduleNotText)
  | unreadableFile (f : FileSystem.Failure) : IsUnforeseen (.load (.unreadableFile f))
  | undecodable (path : Text) : IsUnforeseen (.load (.undecodable path))
  | ending (c : Text) (status : Nat) (message : Text) :
      IsUnforeseen (.load (.raised (.ending c status message)))
  | other (c : Text) : IsUnforeseen (.load (.raised (.other c)))
  | template (name : Text) {f : RenderFault} (h : IsUnforeseenFault f) :
      IsUnforeseen (.build (.render ⟨name, f⟩))
  | sourceUnavailable : IsUnforeseen (.source .unavailable)
  | source {r : Raised} (h : r ≠ .unknown) : IsUnforeseen (.source (.raised r))
  | write (f : FileSystem.Failure) : IsUnforeseen (.write f)
  | unusablePath (f : FileSystem.Failure) : IsUnforeseen (.unusablePath f)

/-- The error is that of a doc comment or a tag, or code of others raises it as such a one. -/
inductive IsAnnotationError : RunError → Prop
  | plan (p : PlanError) : IsAnnotationError (.build (.plan p))
  | load (message : Text) : IsAnnotationError (.load (.raised (.own .tag message)))
  | template (name message : Text) :
      IsAnnotationError (.build (.render ⟨name, .raised (.own .tag message)⟩))

/-- What the messages of errors begin with. -/
def titles : List Text :=
  ["Metadata validation error: ", "Error loading class: ", "Annotation error: ", "Template error: "]

/-- The lines begin with a title. -/
def HasTitle (lines : List Text) : Prop :=
  ∃ title ∈ titles, ∃ reason rest, lines = (title ++ reason) :: rest

theorem hasTitle_notice (own : OwnError) (message : Text) : HasTitle (own.notice message).2 := by
  cases own with
  | validation errors => exact ⟨titles[0], by decide, _, _, rfl⟩
  | loading => exact ⟨titles[1], by decide, _, _, rfl⟩
  | tag => exact ⟨titles[2], by decide, _, _, rfl⟩
  | template => exact ⟨titles[3], by decide, _, _, rfl⟩

/-- The status one is for tags, and the status two for all else. -/
theorem status_notice (own : OwnError) (message : Text) :
    own = .tag ∧ (own.notice message).1 = 1 ∨ own ≠ .tag ∧ (own.notice message).1 = 2 := by
  cases own with
  | tag => exact .inl ⟨rfl, rfl⟩
  | validation | loading | template => exact .inr ⟨nofun, rfl⟩

/-- The error is one that the program is known to foresee. -/
def IsForeseen (e : RunError) : Prop := ¬ e.IsUnforeseen ∧ e.isUnknown = false

theorem isUnforeseen_template_iff {name : Text} {f : RenderFault} :
    IsUnforeseen (.build (.render ⟨name, f⟩)) ↔ IsUnforeseenFault f := by
  constructor
  · rintro ⟨⟩
    assumption
  · exact .template name

/-- **The errors that the program foresees** are those that it tells of, and they are annotation
errors just if it takes them for errors of tags. -/
theorem foreseen?_cases (e : RunError) :
    (e.IsUnforeseen ∧ e.isUnknown = false ∧ ¬ e.IsAnnotationError ∧ e.foreseen? = none)
    ∨ (¬ e.IsUnforeseen ∧ e.isUnknown = true ∧ ¬ e.IsAnnotationError ∧ e.foreseen? = none
        ∧ ∀ c status message, e.raised? ≠ some (.ending c status message))
    ∨ e.IsForeseen ∧ ∃ own message, e.foreseen? = some (own, message)
        ∧ (e.IsAnnotationError ↔ own = .tag) := by
  cases e with
  | description d =>
      cases d with
      | unforeseen f => exact .inl ⟨.description f, rfl, nofun, rfl⟩
      | unknown => exact .inr (.inl ⟨nofun, rfl, nofun, rfl, nofun⟩)
      | invalidFields | notADocument | notAMapping | unreadableFile =>
          exact .inr (.inr ⟨⟨nofun, rfl⟩, _, _, rfl, nofun, nofun⟩)
  | load e =>
      cases e with
      | raised r =>
          cases r with
          | own own message =>
              refine .inr (.inr ⟨⟨nofun, rfl⟩, own, message, rfl, ?_, ?_⟩)
              · rintro ⟨⟩
                rfl
              · rintro rfl
                exact .load message
          | ending c status message => exact .inl ⟨.ending c status message, rfl, nofun, rfl⟩
          | other c => exact .inl ⟨.other c, rfl, nofun, rfl⟩
          | unknown => exact .inr (.inl ⟨nofun, rfl, nofun, rfl, nofun⟩)
      | docNotText => exact .inl ⟨.docNotText, rfl, nofun, rfl⟩
      | moduleNotText => exact .inl ⟨.moduleNotText, rfl, nofun, rfl⟩
      | unreadableFile f => exact .inl ⟨.unreadableFile f, rfl, nofun, rfl⟩
      | undecodable path => exact .inl ⟨.undecodable path, rfl, nofun, rfl⟩
      | missingName | notDotted | moduleUnavailable | noSuchClass | notAFile | unknownFormat
      | importFailed | noClass => exact .inr (.inr ⟨⟨nofun, rfl⟩, _, _, rfl, nofun, nofun⟩)
  | build b =>
      cases b with
      | unavailable => exact .inr (.inr ⟨⟨nofun, rfl⟩, _, _, rfl, nofun, nofun⟩)
      | plan q => exact .inr (.inr ⟨⟨nofun, rfl⟩, _, _, rfl, fun _ => rfl, fun _ => .plan q⟩)
      | render r =>
          obtain ⟨name, f⟩ := r
          cases f with
          | raised r =>
              cases r with
              | own own message =>
                  refine .inr (.inr ⟨⟨mt isUnforeseen_template_iff.mp nofun, rfl⟩, own, message, rfl,
                    ?_, ?_⟩)
                  · rintro ⟨⟩
                    rfl
                  · rintro rfl
                    exact .template name message
              | ending c status message =>
                  exact .inl ⟨.template name (.ending c status message), rfl, nofun, rfl⟩
              | other c => exact .inl ⟨.template name (.other c), rfl, nofun, rfl⟩
              | unknown =>
                  exact .inr (.inl ⟨mt isUnforeseen_template_iff.mp nofun, rfl, nofun, rfl, nofun⟩)
          | notFound | undefined =>
              exact .inr (.inr ⟨⟨mt isUnforeseen_template_iff.mp nofun, rfl⟩, _, _, rfl, nofun,
                nofun⟩)
          | undecodable => exact .inl ⟨.template name .undecodable, rfl, nofun, rfl⟩
          | malformed => exact .inl ⟨.template name .malformed, rfl, nofun, rfl⟩
          | unknown =>
              exact .inr (.inl ⟨mt isUnforeseen_template_iff.mp nofun, rfl, nofun, rfl, nofun⟩)
          | reservedName => exact .inl ⟨.template name .reservedName, rfl, nofun, rfl⟩
          | partNotFound => exact .inl ⟨.template name .partNotFound, rfl, nofun, rfl⟩
  | source f =>
      cases f with
      | unavailable => exact .inl ⟨.sourceUnavailable, rfl, nofun, rfl⟩
      | raised r =>
          cases r with
          | unknown =>
              refine .inr (.inl ⟨?_, rfl, nofun, rfl, nofun⟩)
              rintro ⟨⟩
              rename_i h
              exact h rfl
          | own | ending | other => exact .inl ⟨.source nofun, rfl, nofun, rfl⟩
  | write f => exact .inl ⟨.write f, rfl, nofun, rfl⟩
  | unusablePath f => exact .inl ⟨.unusablePath f, rfl, nofun, rfl⟩

end RunError

/-- Lines whose first one starts with a letter are not shown as nothing. -/
theorem shownLines_ne_nil {c : Char} {line : Text} {lines : List Text} (h : c ≠ escapeChar) :
    shownLines ((c :: line) :: lines) ≠ [] := by
  rw [shownLines, List.flatMap_cons, shownText, List.cons_append, withoutControls_cons_of_ne h]
  exact List.cons_ne_nil _ _

/-- Lines under a title are shown. -/
theorem RunError.HasTitle.shownLines_ne_nil {lines : List Text} (h : HasTitle lines) :
    shownLines lines ≠ [] := by
  obtain ⟨title, htitle, reason, rest, rfl⟩ := h
  have hletters : ∀ title ∈ titles, (title.head?.any fun c => c != escapeChar) = true := by decide
  cases title with
  | nil => cases hletters _ htitle
  | cons c title =>
      exact TestSkeleton.shownLines_ne_nil (by simpa using hletters _ htitle)

namespace RunError

variable {μ : Type} {e : RunError} {s : Machine μ}

/-- An error that is foreseen is told of. -/
theorem endRun_of_foreseen {own : OwnError} {message : Text}
    (h : e.foreseen? = some (own, message)) :
    (e.endRun s).ending = .exit (own.notice message).1
      ∧ (e.endRun s).messages = s.messages ++ shownLines (own.notice message).2 := by
  unfold endRun
  rw [h]
  exact ⟨rfl, rfl⟩

/-- Code of others ends a run that it breaks off. -/
theorem ending_endRun_of_ended {c message : Text} {status : Nat} (h : e.foreseen? = none)
    (hraised : e.raised? = some (.ending c status message)) :
    (e.endRun s).ending = .ended status := by
  unfold endRun
  rw [h, hraised]

theorem ending_endRun_of_other (h : e.foreseen? = none)
    (hraised : ∀ c status message, e.raised? ≠ some (.ending c status message)) :
    (e.endRun s).ending = if e.isUnknown then .unknown else .broken e := by
  unfold endRun
  rw [h]
  dsimp only
  split
  next c status message hending => exact absurd hending (hraised c status message)
  next => rfl

end RunError

/-! ## Requests -/

section Writing

variable {μ : Type} {path : FilePath} {t : Text} {s u : Machine μ} {e : RunError}

theorem writeTests_apply (path : FilePath) (t : Text) (s : Machine μ) :
    writeTests path t s = ⟨{ s with files := (TestFile.write path t s.files).2 },
      (TestFile.write path t s.files).1.mapError .write⟩ := rfl

/-- Writing to a file writes nothing to the standard output. -/
theorem writeTests_output {r : Except RunError Unit} (h : writeTests path t s = ⟨u, r⟩) :
    u.output = s.output := by
  rw [writeTests_apply] at h
  cases h
  rfl

/-- A file that was written holds the tests. -/
theorem writeTests_read (h : writeTests path t s = ⟨u, .ok ()⟩) :
    u.files.read path.toText = .ok (encode t) := by
  rw [writeTests_apply] at h
  obtain ⟨rfl, hresult⟩ := Outcome.mk.inj h
  have hwritten : TestFile.write path t s.files = (.ok (), (TestFile.write path t s.files).2) :=
    Prod.ext (mapError_eq_ok_iff.mp hresult) rfl
  exact FileSystem.read_of_writeWithParents hwritten

theorem writeTests_error (h : writeTests path t s = ⟨u, .error e⟩) : ∃ f, e = .write f := by
  rw [writeTests_apply] at h
  obtain ⟨-, hresult⟩ := Outcome.mk.inj h
  obtain ⟨f, -, rfl⟩ := mapError_eq_error_iff.mp hresult
  exact ⟨f, rfl⟩

end Writing

namespace GenerationRequest

section Requests

variable {μ : Type} (p : Platform μ) (g : GenerationRequest) (s : Machine μ)

/-- A request fails with an error, and leaves the machine so: there are no tests, or no path for
them, or no file at that path. -/
inductive FailsWith : RunError → Machine μ → Prop
  | generating {e : RunError} {u : Machine μ}
      (h : g.generateOn p (s.setUp g.verbose) = ⟨u, .error e⟩) : FailsWith e u
  | locating {c : LoadedClass (Machine μ)} {t : Text} {v u : Machine μ} {e : RunError}
      (h : g.generateOn p (s.setUp g.verbose) = ⟨v, .ok (c, t)⟩) (hformat : g.format = .file)
      (hpath : g.pathOn c v = ⟨u, .error e⟩) : FailsWith e u
  | writing {c : LoadedClass (Machine μ)} {t : Text} {v w u : Machine μ} {path : FilePath}
      {e : RunError} (h : g.generateOn p (s.setUp g.verbose) = ⟨v, .ok (c, t)⟩)
      (hformat : g.format = .file) (hpath : g.pathOn c v = ⟨w, .ok path⟩)
      (hwrite : writeTests path t w = ⟨u, .error e⟩) : FailsWith e u

/-- What came of a run is what the request asks for: the tests are on the standard output behind
what was there when they were generated, or in the file whose path is told there. -/
inductive Produces (r : RunResult μ) : Prop
  | shown {c : LoadedClass (Machine μ)} {t : Text} {v : Machine μ}
      (h : g.generateOn p (s.setUp g.verbose) = ⟨v, .ok (c, t)⟩) (hformat : g.format = .text)
      (houtput : r.output = v.output ++ shownText t) : Produces r
  | written {c : LoadedClass (Machine μ)} {t : Text} {v w : Machine μ} {path : FilePath}
      (h : g.generateOn p (s.setUp g.verbose) = ⟨v, .ok (c, t)⟩) (hformat : g.format = .file)
      (hpath : g.pathOn c v = ⟨w, .ok path⟩)
      (houtput : r.output = w.output ++ shownLines ["Generated: " ++ path.toText])
      (hfile : r.files.read path.toText = .ok (encode t)) : Produces r

/-- The class can be loaded, and a doc comment or a tag of its eligible methods is in error, none
before it being so. -/
def HasAnnotationFault (q : PlanError) : Prop :=
  ∃ c before m after, (g.loadedFrom p s).result = .ok c
    ∧ c.info.eligible = before ++ m :: after ∧ (∀ u ∈ before, u.IsSound) ∧ m.FailsWith q

end Requests

variable {μ : Type} {p : Platform μ} {g : GenerationRequest} {s : Machine μ}

/-- A request fails with one error at most, and in one way. -/
theorem FailsWith.unique {e e' : RunError} {u u' : Machine μ} (h : g.FailsWith p s e u)
    (h' : g.FailsWith p s e' u') : e' = e ∧ u' = u := by
  cases h with
  | generating h =>
      cases h' with
      | generating h' => cases h.symm.trans h'; exact ⟨rfl, rfl⟩
      | locating h' => cases h.symm.trans h'
      | writing h' => cases h.symm.trans h'
  | locating h _ hpath =>
      cases h' with
      | generating h' => cases h.symm.trans h'
      | locating h' _ hpath' =>
          cases h.symm.trans h'
          cases hpath.symm.trans hpath'
          exact ⟨rfl, rfl⟩
      | writing h' _ hpath' =>
          cases h.symm.trans h'
          cases hpath.symm.trans hpath'
  | writing h _ hpath hwrite =>
      cases h' with
      | generating h' => cases h.symm.trans h'
      | locating h' _ hpath' =>
          cases h.symm.trans h'
          cases hpath.symm.trans hpath'
      | writing h' _ hpath' hwrite' =>
          cases h.symm.trans h'
          cases hpath.symm.trans hpath'
          cases hwrite.symm.trans hwrite'
          exact ⟨rfl, rfl⟩

/-! ### What comes of a request -/

section Run

variable {c : LoadedClass (Machine μ)} {t : Text} {u v w : Machine μ} {path : FilePath}
  {e : RunError}

/-- Behind the tests, a run hands them over. -/
theorem runOn_of_generated (h : g.generateOn p (s.setUp g.verbose) = ⟨v, .ok (c, t)⟩) :
    g.runOn p s = match (g.emit c t v).result with
      | .ok () => { (g.emit c t v).state with ending := .exit 0 }
      | .error e => e.endRun (g.emit c t v).state := by
  have htests : (g.generateOn p >>= fun r => g.emit r.1 r.2) (s.setUp g.verbose) = g.emit c t v := by
    rw [Step.bind_of_ok (congrArg Outcome.result h), h]
  rw [← htests]
  rfl

theorem emit_of_text (hformat : g.format = .text) :
    g.emit c t v = ⟨v.write (shownText t), .ok ()⟩ := by
  rw [emit, hformat]
  rfl

theorem emit_of_unlocated (hformat : g.format = .file) (hpath : g.pathOn c v = ⟨u, .error e⟩) :
    g.emit c t v = ⟨u, .error e⟩ := by
  rw [emit, hformat]
  dsimp only
  rw [Step.bind_of_error (congrArg Outcome.result hpath), hpath]

theorem emit_of_unwritten (hformat : g.format = .file) (hpath : g.pathOn c v = ⟨w, .ok path⟩)
    (hwrite : writeTests path t w = ⟨u, .error e⟩) : g.emit c t v = ⟨u, .error e⟩ := by
  rw [emit, hformat]
  dsimp only
  rw [Step.bind_of_ok (congrArg Outcome.result hpath), hpath,
    Step.bind_of_error (congrArg Outcome.result hwrite), hwrite]

theorem emit_of_written (hformat : g.format = .file) (hpath : g.pathOn c v = ⟨w, .ok path⟩)
    (hwrite : writeTests path t w = ⟨u, .ok ()⟩) :
    g.emit c t v = ⟨(u.tell (.fileWritten t.length path.toText)).write
      (shownLines ["Generated: " ++ path.toText]), .ok ()⟩ := by
  rw [emit, hformat]
  dsimp only
  rw [Step.bind_of_ok (congrArg Outcome.result hpath), hpath,
    Step.bind_of_ok (congrArg Outcome.result hwrite), hwrite]
  rfl

/-- **A failed run tells of its error**, on the machine as the failure leaves it. -/
theorem runOn_of_failsWith (h : g.FailsWith p s e u) : g.runOn p s = e.endRun u := by
  cases h with
  | generating h => exact runOn_of_generateOn_error h
  | locating h hformat hpath =>
      rw [runOn_of_generated h, emit_of_unlocated hformat hpath]
  | writing h hformat hpath hwrite =>
      rw [runOn_of_generated h, emit_of_unwritten hformat hpath hwrite]

end Run

/-- **A request is fulfilled or fails.** -/
theorem produces_or_failsWith (p : Platform μ) (g : GenerationRequest) (s : Machine μ) :
    (g.Produces p s (g.runOn p s) ∧ (g.runOn p s).ending = .exit 0)
      ∨ ∃ e u, g.FailsWith p s e u := by
  rcases h : g.generateOn p (s.setUp g.verbose) with ⟨v, e | ⟨c, t⟩⟩
  · exact .inr ⟨e, v, .generating h⟩
  have hrun := runOn_of_generated h
  cases hformat : g.format with
  | text =>
      rw [emit_of_text hformat] at hrun
      rw [hrun]
      exact .inl ⟨.shown h hformat rfl, rfl⟩
  | file =>
      rcases hpath : g.pathOn c v with ⟨w, e | path⟩
      · exact .inr ⟨e, w, .locating h hformat hpath⟩
      rcases hwrite : writeTests path t w with ⟨u, e | ⟨⟩⟩
      · exact .inr ⟨e, u, .writing h hformat hpath hwrite⟩
      rw [emit_of_written hformat hpath hwrite] at hrun
      rw [hrun]
      refine .inl ⟨.written h hformat hpath ?_ ?_, rfl⟩
      · show (u.tell _).output ++ _ = _
        rw [(Machine.Speaks.tell rfl u).output, writeTests_output hwrite]
      · show (u.tell _).files.read _ = _
        rw [(Machine.Speaks.tell rfl u).files, writeTests_read hwrite]

/-- Nothing that was asked for comes of a request that fails. -/
theorem not_produces_of_failsWith {e : RunError} {u : Machine μ} (h : g.FailsWith p s e u) :
    ¬ g.Produces p s (g.runOn p s) := by
  rw [runOn_of_failsWith h]
  rintro (⟨hok, hformat, -⟩ | ⟨hok, hformat, hpath, houtput, -⟩)
  · -- the tests are there and have only to be shown
    cases h with
    | generating h => cases h.symm.trans hok
    | locating _ hfile => cases hformat.symm.trans hfile
    | writing _ hfile => cases hformat.symm.trans hfile
  · cases h with
    | generating h => cases h.symm.trans hok
    | locating h _ hpath' =>
        cases h.symm.trans hok
        cases hpath.symm.trans hpath'
    | writing h _ hpath' hwrite =>
        -- the path would have been told
        cases h.symm.trans hok
        cases hpath.symm.trans hpath'
        rw [(RunError.endRun_speaks _ u).output, writeTests_output hwrite] at houtput
        have hline := List.self_eq_append_right.mp houtput
        exact shownLines_ne_nil (by decide) hline

/-! ### Doc comments in error -/

/-- Loading has errors of its own. -/
theorem loadOn_ne_build {o : ClassOrigin} {b : BuildError RenderError} :
    (o.loadOn p s).result ≠ .error (.build b) := by
  intro h
  cases o with
  | code r =>
      rcases Step.bind_eq_error_iff.mp h with h | ⟨c, -, h⟩
      · obtain ⟨e, -, he⟩ := mapError_eq_error_iff.mp h
        cases he
      · rcases Step.bind_eq_error_iff.mp h with h | ⟨info, -, h⟩
        · obtain ⟨e, -, he⟩ := mapError_eq_error_iff.mp h
          cases he
        · cases h
  | description path =>
      rcases Step.bind_eq_error_iff.mp h with h | ⟨info, -, h⟩
      · obtain ⟨e, -, he⟩ := mapError_eq_error_iff.mp h
        cases he
      · cases h

/-- So has finding the path of a file. -/
theorem pathOn_ne_build {c : LoadedClass (Machine μ)} {b : BuildError RenderError} :
    (g.pathOn c s).result ≠ .error (.build b) := by
  intro h
  unfold pathOn at h
  cases houtput : g.output with
  | some path => rw [houtput] at h; cases h
  | none =>
      rw [houtput] at h
      rcases Step.bind_eq_error_iff.mp h with h | ⟨source, -, h⟩
      · obtain ⟨e, -, he⟩ := mapError_eq_error_iff.mp h
        cases he
      · obtain ⟨e, -, he⟩ := mapError_eq_error_iff.mp h
        cases he

/-- **An error of a plan has its cause** in a doc comment of the class. -/
theorem hasAnnotationFault_of_failsWith {q : PlanError} {u : Machine μ}
    (h : g.FailsWith p s (.build (.plan q)) u) : g.HasAnnotationFault p s q := by
  -- only building yields an error of this kind
  cases h with
  | generating h =>
      rcases result_generateOn_eq_error_iff.mp (congrArg Outcome.result h) with
        hload | ⟨c, b, hload, hb, heq⟩
      · exact absurd hload loadOn_ne_build
      · cases heq
        rcases GeneratedClass.generateWith_eq_error_iff.mp hb with hbuild | ⟨tests, e, -, -, heq⟩
        · obtain ⟨before, m, after, hms, hbefore, hm⟩ :=
            GeneratedClass.first_fault_of_buildWith hbuild
          exact ⟨c, before, m, after, hload, hms, hbefore, hm⟩
        · cases heq
  | locating h hformat hpath => exact absurd (congrArg Outcome.result hpath) pathOn_ne_build
  | writing h hformat hpath hwrite =>
      obtain ⟨f, hf⟩ := writeTests_error hwrite
      cases hf

/-! ### The exit status -/

/-- How a run ends that fails with an error which is foreseen. -/
theorem ending_of_foreseen {e : RunError} {u : Machine μ} (h : g.FailsWith p s e u)
    (he : e.IsForeseen) :
    (e.IsAnnotationError ∧ (g.runOn p s).ending = .exit 1
        ∨ ¬ e.IsAnnotationError ∧ (g.runOn p s).ending = .exit 2) ∧
    ∃ lines, RunError.HasTitle lines
      ∧ (g.runOn p s).messages = u.messages ++ shownLines lines := by
  rcases e.foreseen?_cases with ⟨hunforeseen, -⟩ | ⟨-, hunknown, -⟩ |
    ⟨-, own, message, hforeseen, htag⟩
  · exact absurd hunforeseen he.1
  · exact absurd (he.2.symm.trans hunknown) (by decide)
  obtain ⟨hending, hmessages⟩ := RunError.endRun_of_foreseen (s := u) hforeseen
  rw [runOn_of_failsWith h, hending, hmessages, htag]
  refine ⟨?_, _, RunError.hasTitle_notice own message, rfl⟩
  rcases RunError.status_notice own message with ⟨hown, hstatus⟩ | ⟨hown, hstatus⟩
  · exact .inl ⟨hown, by rw [hstatus]⟩
  · exact .inr ⟨hown, by rw [hstatus]⟩

/-- How a run ends that fails with an error which is not foreseen. -/
theorem ending_of_unforeseen {e : RunError} {u : Machine μ} (h : g.FailsWith p s e u)
    (he : e.IsUnforeseen) :
    (∃ c status message, e.raised? = some (.ending c status message)
        ∧ (g.runOn p s).ending = .ended status)
      ∨ (∀ c status message, e.raised? ≠ some (.ending c status message))
        ∧ (g.runOn p s).ending = .broken e := by
  rcases e.foreseen?_cases with ⟨-, hknown, -, hnone⟩ | ⟨hother, -⟩ | ⟨hforeseen, -⟩
  · rw [runOn_of_failsWith h]
    by_cases hended : ∃ c status message, e.raised? = some (.ending c status message)
    · obtain ⟨c, status, message, hraised⟩ := hended
      exact .inl ⟨c, status, message, hraised, RunError.ending_endRun_of_ended hnone hraised⟩
    · have hother : ∀ c status message, e.raised? ≠ some (.ending c status message) :=
        fun c status message hraised => hended ⟨c, status, message, hraised⟩
      refine .inr ⟨hother, ?_⟩
      rw [RunError.ending_endRun_of_other hnone hother, hknown]
      rfl
  · exact absurd he hother
  · exact absurd he hforeseen.1

/-- How a run ends that comes to what is not known. -/
theorem ending_of_unknown {e : RunError} {u : Machine μ} (h : g.FailsWith p s e u)
    (he : e.isUnknown = true) : (g.runOn p s).ending = .unknown := by
  rcases e.foreseen?_cases with ⟨-, hknown, -⟩ | ⟨-, -, -, hnone, hother⟩ | ⟨hforeseen, -⟩
  · exact absurd (hknown.symm.trans he) (by decide)
  · rw [runOn_of_failsWith h, RunError.ending_endRun_of_other hnone hother, he]
    rfl
  · exact absurd (hforeseen.2.symm.trans he) (by decide)

/-- An error is foreseen, or it is not, or it stands for what is not known; and annotation errors are
foreseen. -/
theorem isForeseen_cases (e : RunError) :
    e.IsForeseen ∨ (e.IsUnforeseen ∧ e.isUnknown = false ∧ ¬ e.IsAnnotationError)
      ∨ ¬ e.IsUnforeseen ∧ e.isUnknown = true ∧ ¬ e.IsAnnotationError := by
  rcases e.foreseen?_cases with ⟨he, hknown, htag, -⟩ | ⟨he, hunknown, htag, -⟩ | ⟨he, -⟩
  · exact .inr (.inl ⟨he, hknown, htag⟩)
  · exact .inr (.inr ⟨he, hunknown, htag⟩)
  · exact .inl he

theorem produces_of_ending (h : (g.runOn p s).ending = .exit 0) : g.Produces p s (g.runOn p s) := by
  rcases produces_or_failsWith p g s with ⟨hproduces, -⟩ | ⟨e, u, he⟩
  · exact hproduces
  rcases isForeseen_cases e with hforeseen | ⟨hunforeseen, -⟩ | ⟨-, hunknown, -⟩
  · obtain ⟨⟨-, hending⟩ | ⟨-, hending⟩, -⟩ := ending_of_foreseen he hforeseen
    · cases h.symm.trans hending
    · cases h.symm.trans hending
  · rcases ending_of_unforeseen he hunforeseen with ⟨_, _, _, -, hending⟩ | ⟨-, hending⟩
    · cases h.symm.trans hending
    · cases h.symm.trans hending
  · cases h.symm.trans (ending_of_unknown he hunknown)

/-- An annotation error is found in a doc comment of the class, or code of others has raised it. -/
theorem cause_of_isAnnotationError {e : RunError} {u : Machine μ} (h : g.FailsWith p s e u)
    (he : e.IsAnnotationError) :
    (∃ q, g.HasAnnotationFault p s q) ∨ ∃ message, e.raised? = some (.own .tag message) := by
  cases he with
  | plan q => exact .inl ⟨q, hasAnnotationFault_of_failsWith h⟩
  | load message => exact .inr ⟨message, rfl⟩
  | template name message => exact .inr ⟨message, rfl⟩

/-- **The exit status of a run**, whatever code of others does. It is zero just if the tests are
there; one just if a doc comment or a tag is in error, or code of others has raised such an error;
and two just if there is another error that the program foresees. In these two cases the run leaves a
message under a title behind what was there when it failed. A run breaks off just with an error that
the program does not foresee, unless code of others ends it with a status by raising that error. It
has no other way to end that is known. -/
theorem exit_status_law (p : Platform μ) (g : GenerationRequest) (s : Machine μ) :
    ((g.runOn p s).ending = .exit 0 ↔ g.Produces p s (g.runOn p s)) ∧
    ((g.runOn p s).ending = .exit 1 ↔ ∃ e u, g.FailsWith p s e u ∧ e.IsAnnotationError) ∧
    ((g.runOn p s).ending = .exit 1 → (∃ q, g.HasAnnotationFault p s q)
      ∨ ∃ e u message, g.FailsWith p s e u ∧ e.raised? = some (.own .tag message)) ∧
    ((g.runOn p s).ending = .exit 2
      ↔ ∃ e u, g.FailsWith p s e u ∧ e.IsForeseen ∧ ¬ e.IsAnnotationError) ∧
    (∀ e u, g.FailsWith p s e u → e.IsForeseen → ∃ lines, RunError.HasTitle lines
      ∧ (g.runOn p s).messages = u.messages ++ shownLines lines ∧ shownLines lines ≠ []) ∧
    (∀ status, (g.runOn p s).ending = .ended status
      ↔ ∃ e u c message, g.FailsWith p s e u ∧ e.IsUnforeseen
          ∧ e.raised? = some (.ending c status message)) ∧
    (∀ e, (g.runOn p s).ending = .broken e ↔ (∃ u, g.FailsWith p s e u) ∧ e.IsUnforeseen
      ∧ ∀ c status message, e.raised? ≠ some (.ending c status message)) ∧
    ((g.runOn p s).ending = .unknown ↔ ∃ e u, g.FailsWith p s e u ∧ e.isUnknown = true) ∧
    ∀ status, (g.runOn p s).ending = .exit status → status = 0 ∨ status = 1 ∨ status = 2 := by
  rcases produces_or_failsWith p g s with ⟨hproduces, hending⟩ | ⟨e, u, he⟩
  · -- the request is fulfilled and has no error
    have hnone : ∀ e u, ¬ g.FailsWith p s e u := fun e u he => not_produces_of_failsWith he hproduces
    simp [hproduces, hending, hnone]
  -- the only error decides how the run ends
  have hproduces := not_produces_of_failsWith he
  have hunique : ∀ e' u', g.FailsWith p s e' u' ↔ e' = e ∧ u' = u := fun e' u' =>
    ⟨he.unique, fun h => h.1 ▸ h.2 ▸ he⟩
  rcases isForeseen_cases e with hforeseen | ⟨hunforeseen, hknown, hplan⟩ |
    ⟨hforeseen, hunknown, hplan⟩
  · -- the run fails with a message
    obtain ⟨hending, lines, htitle, hmessages⟩ := ending_of_foreseen he hforeseen
    have hshown : e.IsForeseen → ∃ lines, RunError.HasTitle lines
        ∧ (g.runOn p s).messages = u.messages ++ shownLines lines ∧ shownLines lines ≠ [] :=
      fun _ => ⟨lines, htitle, hmessages, htitle.shownLines_ne_nil⟩
    rcases hending with ⟨hplan, hending⟩ | ⟨hplan, hending⟩
    · have hcause := cause_of_isAnnotationError he hplan
      simpa [hproduces, hending, hunique, hforeseen.1, hforeseen.2, hplan] using ⟨hcause, hshown⟩
    · simpa [hproduces, hending, hunique, hforeseen, hforeseen.1, hforeseen.2, hplan]
        using hshown hforeseen
  · have hother : ¬ e.IsForeseen := fun h => h.1 hunforeseen
    rcases ending_of_unforeseen he hunforeseen with
      ⟨c, status, message, hraised, hending⟩ | ⟨hraised, hending⟩
    · -- code of others ends the run
      simp [hproduces, hending, hunique, hunforeseen, hknown, hother, hplan, hraised]
    · -- the run breaks off
      have hbroken : ∀ e', e = e' ↔ e' = e ∧ e'.IsUnforeseen
          ∧ ∀ c status message, e'.raised? ≠ some (.ending c status message) :=
        fun e' => ⟨fun h => h ▸ ⟨rfl, hunforeseen, hraised⟩, fun h => h.1.symm⟩
      simpa [hproduces, hending, hunique, hunforeseen, hknown, hother, hplan, hraised]
        using hbroken
  · have hother : ¬ e.IsForeseen := fun h => absurd (h.2.symm.trans hunknown) (by decide)
    simp [hproduces, ending_of_unknown he hunknown, hunique, hforeseen, hunknown, hother, hplan]

end GenerationRequest

/-! ### A file in the way -/

/-- The description of a class without methods, and a template of this text for its tests. -/
def templateWorld (template : Text) : World :=
  .ofEntries [(["m"], .file (encode "class: A")), (["t"], .directory),
    (["t", "TestClass.py.j2"], .file (encode template))]

/-- A request to write the tests to a path on which the description is taken for a directory. -/
def obstructedRequest : GenerationRequest where
  origin := .description ⟨[], ["m"]⟩
  output := some "m/x"
  format := .file
  templateDirectory := some "t"

/-- Not every failure is told of with a status: a file that cannot be written breaks the run off. -/
theorem obstructedFile_breaks_off :
    ¬ ∀ (w : World) (arguments : List Text) (g : GenerationRequest),
      Request.ofArguments w.files w.templateVariable arguments = .ok (.generate g) →
      ∃ status, (w.run arguments).ending = .exit status := by
  intro h
  have hasked : Request.ofArguments (templateWorld "x").files (templateWorld "x").templateVariable
      ["generate-from-metadata", "m", "--template-dir", "t", "--format", "file", "--output", "m/x"]
        = .ok (.generate obstructedRequest) := by decide +kernel
  have hbroken : (obstructedRequest.run (templateWorld "x")).ending.status? = none := by
    decide +kernel
  obtain ⟨status, hstatus⟩ := h (templateWorld "x") _ obstructedRequest hasked
  rw [World.run_of_asked hasked, Ending.eq_exit_iff, hbroken] at hstatus
  cases hstatus

end TestSkeleton
