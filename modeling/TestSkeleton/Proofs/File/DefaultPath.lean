import TestSkeleton.Proofs.CommandLine.Ending
import TestSkeleton.Proofs.CommandLine.KnownCode
import TestSkeleton.Proofs.File.Frame
import TestSkeleton.Proofs.Text.Case

set_option autoImplicit false

/-! # The directory of tests

Unless told otherwise a run writes to the directory for tests, into a file named for the class. The
name of a class becomes a path and not just a name, so the file is in that directory just if the
name holds no slash (`TestFile.defaultPath_in_directory_iff`); a name with a slash leads elsewhere
(`TestFile.slashName_not_in_directory`).
-/

namespace TestSkeleton

open Text

namespace FilePath

/-! ## Names of paths that are read -/

/-- A slash takes the names of a path apart. -/
theorem names_ofText_append_slash (s t : Text) :
    (ofText (s ++ '/' :: t)).names = (ofText s).names ++ (ofText t).names := by
  unfold ofText
  rw [splitOn_append_cons, List.filter_append]

theorem ofText_of_not_mem {t : Text} (h : '/' ∉ t) (hne : t ≠ []) (hpoint : t ≠ ['.']) :
    ofText t = ⟨[], [t]⟩ := by
  have hroot : rootOf t = [] := by
    fun_cases rootOf t with
    | case1 | case2 | case3 => simp at h
    | case4 => rfl
  rw [ofText, hroot, splitOn_of_not_mem h]
  simp [hne, hpoint]

theorem root_ofText_cons {c : Char} (h : c ≠ '/') (t : Text) : (ofText (c :: t)).root = [] := by
  have hroot : rootOf (c :: t) = [] := by simp [rootOf, h]
  exact hroot

theorem names_ofText_cons_ne_nil {c : Char} (hslash : c ≠ '/') (hpoint : c ≠ '.') (t : Text) :
    (ofText (c :: t)).names ≠ [] := by
  obtain ⟨p, ps, hps⟩ := List.exists_cons_of_ne_nil (splitOn_ne_nil '/' t)
  have hsplit : splitOn '/' (c :: t) = (c :: p) :: ps := by
    rw [splitOn_cons_of_ne hslash, hps]
  simp [ofText, hsplit, hpoint]

end FilePath

namespace TestFile

variable {c : Char} {name className : Text}

/-! ## Snake case -/

theorem mem_separateWords_iff (h : c ≠ '_') : c ∈ separateWords name ↔ c ∈ name := by
  induction name with
  | nil => rfl
  | cons a t ih =>
      cases t with
      | nil => rfl
      | cons b t =>
          rw [separateWords]
          split
          · rw [List.mem_cons, List.mem_cons, ih, or_iff_right h, ← List.mem_cons]
          · rw [List.mem_cons, ih, ← List.mem_cons]

/-- A name in snake case has neither capital letters of ASCII nor spaces nor hyphens. -/
theorem isPlain_of_mem_snakeCase (h : c ∈ snakeCase name) :
    isAsciiUpper c = false ∧ c ≠ ' ' ∧ c ≠ '-' := by
  obtain ⟨d, hd, rfl⟩ := List.mem_map.mp h
  split
  next => decide
  next hkept =>
    obtain ⟨hspace, hhyphen⟩ : d ≠ ' ' ∧ d ≠ '-' := by simpa using hkept
    exact ⟨isAsciiUpper_of_mem_lower hd, hspace, hhyphen⟩

/-- A name in snake case has the slashes of the name. -/
theorem slash_mem_snakeCase_iff : '/' ∈ snakeCase name ↔ '/' ∈ name := by
  have hlower : '/' ∈ lower (separateWords name) ↔ '/' ∈ name := by
    rw [mem_lower_iff (by decide) (by decide), mem_separateWords_iff (by decide)]
  rw [← hlower, snakeCase, List.mem_map]
  constructor
  · rintro ⟨d, hd, hslash⟩
    split at hslash
    next => cases hslash
    next => exact hslash ▸ hd
  · exact fun h => ⟨'/', h, rfl⟩

/-! ## Names of test files -/

/-- What the name of the test file of a class is read from. -/
def fileName (className : Text) : Text := "test_" ++ snakeCase className ++ ".py"

/-- A text without slashes and the ending of a file make one name. -/
theorem names_ofText_ending {t : Text} (h : '/' ∉ t) :
    (FilePath.ofText (t ++ ".py")).names = [t ++ ".py"] := by
  rw [FilePath.ofText_of_not_mem (by simp [h]) (by simp) (by simp [List.append_eq_singleton_iff])]

/-- The last slash parts the name of the file from the names above it, which start as the name of
the file would. -/
theorem exists_names_of_slash (h : '/' ∈ className) :
    ∃ (above : List Text) (stem : Text),
      (FilePath.ofText (fileName className)).names = above ++ [stem ++ ".py"]
      ∧ above ≠ [] ∧ ∀ c ∈ stem, c ∈ snakeCase className := by
  obtain ⟨b, a, hreverse, hb⟩ :=
    List.eq_append_cons_of_mem (List.mem_reverse.mpr (slash_mem_snakeCase_iff.mpr h))
  have hsnake : snakeCase className = a.reverse ++ '/' :: b.reverse := by
    rw [← List.reverse_reverse (snakeCase className), hreverse]
    simp
  have hname : fileName className = ("test_" ++ a.reverse) ++ '/' :: (b.reverse ++ ".py") := by
    have hopened : fileName className = "test_" ++ snakeCase className ++ ".py" := rfl
    rw [hopened, hsnake]
    simp
  have hstem : '/' ∉ b.reverse := by simpa using hb
  refine ⟨(FilePath.ofText ("test_" ++ a.reverse)).names, b.reverse, ?_, ?_, fun c hc => ?_⟩
  · rw [hname, FilePath.names_ofText_append_slash, names_ofText_ending hstem]
  · exact FilePath.names_ofText_cons_ne_nil (by decide) (by decide) _
  · rw [hsnake]
    exact List.mem_append_right _ (List.mem_cons_of_mem _ hc)

theorem names_of_slash_not_mem (h : '/' ∉ className) :
    (FilePath.ofText (fileName className)).names = ["test_" ++ snakeCase className ++ ".py"] := by
  refine names_ofText_ending ?_
  simpa using slash_mem_snakeCase_iff.not.mpr h

/-! ## Default paths -/

/-- The directory for tests in a directory. -/
def directory (base : FilePath) : FilePath := base.join ⟨[], [directoryName]⟩

/-- A default path goes on from the directory for tests. -/
theorem defaultPath_eq (base : FilePath) (className : Text) :
    defaultPath base className
      = ⟨(directory base).root,
          (directory base).names ++ (FilePath.ofText (fileName className)).names⟩ := by
  have hrelative : (FilePath.ofText (fileName className)).isAbsolute = false := by
    rw [FilePath.isAbsolute, Bool.not_eq_false', List.isEmpty_iff]
    exact FilePath.root_ofText_cons (by decide) _
  have hjoin : defaultPath base className
      = (directory base).join (.ofText (fileName className)) := rfl
  rw [hjoin, FilePath.join, hrelative]
  rfl

variable {fs : FileSystem} {base : FilePath} {source : Option FilePath}

/-- The default path for a source file is one in the directory of that file. -/
theorem defaultPath?_eq_ok_iff {path : FilePath} :
    defaultPath? fs className source = .ok path
      ↔ ∃ base, baseDirectory fs source = .ok base ∧ defaultPath base className = path :=
  map_eq_ok_iff

/-- **The directory of a default path** is the one for tests just if the name of the class holds no
slash. -/
theorem parent_defaultPath_iff :
    (defaultPath base className).parent = directory base ↔ '/' ∉ className := by
  rw [defaultPath_eq]
  by_cases h : '/' ∈ className
  · obtain ⟨above, stem, hnames, habove, -⟩ := exists_names_of_slash h
    refine iff_of_false (fun heq => habove ?_) (not_not_intro h)
    have hparent := congrArg FilePath.names heq
    rw [hnames, ← List.append_assoc] at hparent
    simpa [FilePath.parent] using hparent
  · simp [names_of_slash_not_mem h, FilePath.parent, h]

/-- **The last name of a default path** ends as that of a file of tests and has neither capital
letters nor spaces nor hyphens. Without slashes in the name of the class it is known altogether. -/
theorem name_defaultPath (base : FilePath) (className : Text) :
    ∃ stem : Text, (defaultPath base className).name = stem ++ ".py"
      ∧ (∀ c ∈ stem, isAsciiUpper c = false ∧ c ≠ ' ' ∧ c ≠ '-')
      ∧ ('/' ∉ className → stem = "test_" ++ snakeCase className) := by
  have hall : ("test_".toList.all fun c => !isAsciiUpper c && c != ' ' && c != '-') = true := by
    decide
  have hstart : ∀ c ∈ "test_".toList, isAsciiUpper c = false ∧ c ≠ ' ' ∧ c ≠ '-' := by
    intro c hc
    simpa [and_assoc] using List.all_eq_true.mp hall c hc
  rw [defaultPath_eq]
  by_cases h : '/' ∈ className
  · obtain ⟨above, stem, hnames, -, hstem⟩ := exists_names_of_slash h
    refine ⟨stem, ?_, fun c hc => isPlain_of_mem_snakeCase (hstem c hc), fun hnot => absurd h hnot⟩
    simp [hnames, FilePath.name, ← List.append_assoc]
  · refine ⟨"test_" ++ snakeCase className, ?_, fun c hc => ?_, fun _ => rfl⟩
    · simp [names_of_slash_not_mem h, FilePath.name]
    · exact (List.mem_append.mp hc).elim (hstart c) isPlain_of_mem_snakeCase

end TestFile

/-! ## Runs -/

section Runs

variable {μ : Type} {p : Platform μ} {g : GenerationRequest} {c : LoadedClass (Machine μ)}
  {s u v : Machine μ}

/-- What can come of a machine before the tests of a request are written: what comes of it on the way to
the tests, and then of looking for the file of the class. -/
def Platform.LeadsToWriting (p : Platform μ) (g : GenerationRequest) (s u : Machine μ) : Prop :=
  ∃ v, p.Leads g s v ∧ (u = v ∨ ∃ c, u = (p.interpreter.sourceFile c v).state)

/-- Where code of others leaves the files as they are, they are so when the tests are written. -/
theorem Platform.LeadsToWriting.files (h : p.LeadsToWriting g s u) (hkeeps : p.KeepsFiles g) :
    u.files = s.files := by
  obtain ⟨v, hleads, hv⟩ := h
  have hfiles : v.files = s.files := eq_of_leads hleads (fun _ _ h => h.files) hkeeps.carriesOut
  rcases hv with rfl | ⟨c, rfl⟩
  · exact hfiles
  · exact (hkeeps.sourceFile c v).trans hfiles

namespace GenerationRequest

/-- Tests are generated for a class that was loaded. -/
theorem loaded_of_generated {t : Text} (h : (g.generateOn p s).result = .ok (c, t)) :
    (g.origin.loadOn p s).result = .ok c := by
  obtain ⟨c', hload, h⟩ := Step.bind_eq_ok_iff.mp h
  obtain ⟨⟨⟩, -, h⟩ := Step.bind_eq_ok_iff.mp h
  obtain ⟨now, -, h⟩ := Step.bind_eq_ok_iff.mp h
  obtain ⟨text, -, h⟩ := Step.bind_eq_ok_iff.mp h
  cases h
  exact hload

/-- The file of a loaded class is known, or code of others tells it. -/
theorem source_of_loadOn (h : (g.origin.loadOn p s).result = .ok c) (v : Machine μ) :
    (c.source v).state = v ∨ ∃ c', (c.source v).state = (p.interpreter.sourceFile c' v).state := by
  cases horigin : g.origin with
  | description path =>
      rw [horigin] at h
      obtain ⟨info, -, h⟩ := Step.bind_eq_ok_iff.mp h
      cases h
      exact .inl rfl
  | code r =>
      rw [horigin] at h
      obtain ⟨c', -, h⟩ := Step.bind_eq_ok_iff.mp h
      obtain ⟨info, -, h⟩ := Step.bind_eq_ok_iff.mp h
      cases h
      cases r.sourceFile with
      | some path => exact .inl rfl
      | none => exact .inr ⟨c', rfl⟩

/-- Finding the default path does no more than to look for the file of the class. -/
theorem state_pathOn (houtput : g.output = none) (v : Machine μ) :
    (g.pathOn c v).state = (c.source v).state := by
  rw [pathOn, houtput]
  dsimp only
  cases hsource : (c.source v).result with
  | ok source =>
      have hmapped : (c.source.mapError RunError.source v).result = .ok source :=
        mapError_eq_ok_iff.mpr hsource
      rw [Step.bind_of_ok hmapped]
      rfl
  | error e =>
      have hmapped : (c.source.mapError RunError.source v).result = .error (.source e) :=
        mapError_eq_error_iff.mpr ⟨e, hsource, rfl⟩
      rw [Step.bind_of_error hmapped]
      rfl

/-- Without a path among the arguments the default path is taken. -/
theorem pathOn_eq_ok {path : FilePath} (houtput : g.output = none)
    (h : g.pathOn c v = ⟨u, .ok path⟩) :
    ∃ source base, c.source v = ⟨u, .ok source⟩ ∧ TestFile.baseDirectory u.files source = .ok base
      ∧ path = TestFile.defaultPath base c.info.name := by
  have hstate : (c.source v).state = u := (state_pathOn houtput v).symm.trans (by rw [h])
  have hresult : (g.pathOn c v).result = .ok path := by rw [h]
  unfold pathOn at hresult
  rw [houtput] at hresult
  obtain ⟨source, hsource, hresult⟩ := Step.bind_eq_ok_iff.mp hresult
  have hsource : (c.source v).result = .ok source := mapError_eq_ok_iff.mp hsource
  have hpath : TestFile.defaultPath? (c.source v).state.files c.info.name source = .ok path :=
    mapError_eq_ok_iff.mp hresult
  rw [hstate] at hpath
  obtain ⟨base, hbase, rfl⟩ := TestFile.defaultPath?_eq_ok_iff.mp hpath
  exact ⟨source, base, hstate ▸ Outcome.eq_of_result hsource, hbase, rfl⟩

/-- The files after a run are what writing the tests makes of them. -/
theorem files_runOn_of_path {t : Text} {path : FilePath}
    (h : g.generateOn p (s.setUp g.verbose) = ⟨v, .ok (c, t)⟩) (hformat : g.format = .file)
    (hpath : g.pathOn c v = ⟨u, .ok path⟩) :
    (TestFile.write path t u.files).2 = (g.runOn p s).files := by
  have hrun := runOn_of_generated h
  rcases hwrite : writeTests path t u with ⟨x, e | ⟨⟩⟩
  · rw [emit_of_unwritten hformat hpath hwrite] at hrun
    rw [hrun, (RunError.endRun_speaks e x).files]
    exact congrArg (fun o => o.state.files) hwrite
  · rw [emit_of_written hformat hpath hwrite] at hrun
    have hfiles : (g.runOn p s).files = x.files := by
      rw [hrun]
      exact (Machine.Speaks.tell rfl x).files
    rw [hfiles]
    exact congrArg (fun o => o.state.files) hwrite

/-- **What a run changes** that is to write to the default path, besides what code of others does: a
file at that path, and directories on the way to it. -/
theorem entry?_runOn (p : Platform μ) (s : Machine μ) (hformat : g.format = .file)
    (houtput : g.output = none) :
    ∃ u, p.LeadsToWriting g s u ∧ ∀ m,
      FileSystem.entry? (g.runOn p s).files m = u.files.entry? m
      ∨ ∃ c t v source base, g.generateOn p (s.setUp g.verbose) = ⟨v, .ok (c, t)⟩
        ∧ c.source v = ⟨u, .ok source⟩ ∧ TestFile.baseDirectory u.files source = .ok base
        ∧ (FileSystem.entry? (g.runOn p s).files m = some .directory
            ∧ (g.runOn p s).files.IsOnWay (TestFile.defaultPath base c.info.name).parent m
          ∨ FileSystem.entry? (g.runOn p s).files m = some (.file (encode t))
            ∧ (g.runOn p s).files.locate (TestFile.defaultPath base c.info.name).toText = .ok m) := by
  have hsetUp : p.Leads g s (s.setUp g.verbose) := leads_of_speaks (.setUp _ s)
  have hleads := hsetUp.trans (generateOn_leads (s.setUp g.verbose))
  rcases hgenerate : g.generateOn p (s.setUp g.verbose) with ⟨v, e | ⟨c, t⟩⟩
  · rw [hgenerate] at hleads
    refine ⟨v, ⟨v, hleads, .inl rfl⟩, fun m => .inl ?_⟩
    rw [runOn_of_generateOn_error hgenerate, (RunError.endRun_speaks e v).files]
  rw [hgenerate] at hleads
  have hloaded := loaded_of_generated (congrArg Outcome.result hgenerate)
  rcases hpath : g.pathOn c v with ⟨u, r⟩
  have hu : (c.source v).state = u := (state_pathOn houtput v).symm.trans (by rw [hpath])
  have hwriting : p.LeadsToWriting g s u := ⟨v, hleads, by
    rcases source_of_loadOn hloaded v with hv | ⟨c', hv⟩
    · exact .inl (hu.symm.trans hv)
    · exact .inr ⟨c', hu.symm.trans hv⟩⟩
  refine ⟨u, hwriting, fun m => ?_⟩
  cases r with
  | error e =>
      refine .inl ?_
      rw [runOn_of_generated hgenerate, emit_of_unlocated hformat hpath]
      exact congrArg (fun f => FileSystem.entry? f m) (RunError.endRun_speaks e u).files
  | ok path =>
      obtain ⟨source, base, hsource, hbase, rfl⟩ := pathOn_eq_ok houtput hpath
      have hfiles := files_runOn_of_path hgenerate hformat hpath
      exact (FileSystem.entry?_writeWithParents hfiles m).imp_right fun h =>
        ⟨c, t, v, source, base, rfl, hsource, hbase, h⟩

end GenerationRequest

end Runs

namespace TestFile

/-- **The tests of a class are written to the directory for tests** beside its source file, or in
the current directory, just if the name of the class holds no slash. The last name of the path
always ends as a file of tests does, without capital letters, spaces and hyphens, and without
slashes in the name of the class it starts as one too. A run that is not told a path changes nothing
but such a path, and directories on the way to it, besides what code of others has changed by then. -/
theorem defaultPath_in_directory_iff {μ : Type} (fs : FileSystem) (className : Text)
    (source : Option FilePath) (p : Platform μ) (g : GenerationRequest) (s : Machine μ) :
    (∀ path, defaultPath? fs className source = .ok path →
      ∃ base, baseDirectory fs source = .ok base
        ∧ (path.parent = directory base ↔ '/' ∉ className)
        ∧ ∃ stem : Text, path.name = stem ++ ".py"
          ∧ (∀ c ∈ stem, isAsciiUpper c = false ∧ c ≠ ' ' ∧ c ≠ '-')
          ∧ ('/' ∉ className → stem = "test_" ++ snakeCase className))
    ∧ (g.format = .file → g.output = none →
      ∃ u, p.LeadsToWriting g s u ∧ (p.KeepsFiles g → u.files = s.files)
        ∧ ∀ m, FileSystem.entry? (g.runOn p s).files m ≠ u.files.entry? m →
          ∃ c t v source base, g.generateOn p (s.setUp g.verbose) = ⟨v, .ok (c, t)⟩
            ∧ c.source v = ⟨u, .ok source⟩ ∧ baseDirectory u.files source = .ok base
            ∧ ('/' ∉ c.info.name →
              FileSystem.entry? (g.runOn p s).files m = some .directory
                ∧ (g.runOn p s).files.IsOnWay (directory base) m
              ∨ ∃ q : FilePath, q.parent = directory base
                ∧ (g.runOn p s).files.locate q.toText = .ok m)) := by
  constructor
  · rintro path h
    obtain ⟨base, hbase, rfl⟩ := defaultPath?_eq_ok_iff.mp h
    exact ⟨base, hbase, parent_defaultPath_iff, name_defaultPath base className⟩
  intro hformat houtput
  obtain ⟨u, hwriting, hchanged⟩ := GenerationRequest.entry?_runOn p s hformat houtput
  refine ⟨u, hwriting, hwriting.files, fun m hm => ?_⟩
  obtain ⟨c, t, v, source, base, hgenerate, hsource, hbase, hchanged⟩ :=
    (hchanged m).resolve_left hm
  refine ⟨c, t, v, source, base, hgenerate, hsource, hbase, fun hslash => ?_⟩
  have hparent : (defaultPath base c.info.name).parent = directory base :=
    parent_defaultPath_iff.mpr hslash
  rcases hchanged with ⟨hnew, hway⟩ | ⟨-, hplace⟩
  · exact .inl ⟨hnew, hparent ▸ hway⟩
  · exact .inr ⟨_, hparent, hplace⟩

/-- A request to write the tests of a class that is described in a file. -/
def describedRequest : GenerationRequest where
  origin := .description ⟨[], ["m"]⟩
  format := .file
  templateDirectory := some "t"

/-- The tests come into a new directory beside the description. -/
theorem describedClass_in_directory :
    describedRequest.format = .file ∧ describedRequest.output = none
    ∧ FileSystem.entry? (describedRequest.run (templateWorld "x")).files
        [".~unit-tests", "test_a.py"]
      ≠ FileSystem.entry? (templateWorld "x").files [".~unit-tests", "test_a.py"]
    ∧ '/' ∉ "A".toList
    ∧ defaultPath? (templateWorld "x").files "A" (some ⟨[], ["m"]⟩)
        = .ok ⟨['/'], [".~unit-tests", "test_a.py"]⟩
    ∧ (∃ base, baseDirectory (templateWorld "x").files (some ⟨[], ["m"]⟩) = .ok base
      ∧ FilePath.parent ⟨['/'], [".~unit-tests", "test_a.py"]⟩ = directory base)
    ∧ ∃ v c t, describedRequest.generateOn (templateWorld "x").platform
        ((templateWorld "x").machine.setUp describedRequest.verbose) = ⟨v, .ok (c, t)⟩ := by
  have hchanged : FileSystem.entry? (describedRequest.run (templateWorld "x")).files
        [".~unit-tests", "test_a.py"]
      ≠ FileSystem.entry? (templateWorld "x").files [".~unit-tests", "test_a.py"] := by
    decide +kernel
  have hpath : defaultPath? (templateWorld "x").files "A" (some ⟨[], ["m"]⟩)
      = .ok ⟨['/'], [".~unit-tests", "test_a.py"]⟩ := by
    decide +kernel
  have hlaw := defaultPath_in_directory_iff (templateWorld "x").files "A" (some ⟨[], ["m"]⟩)
    (templateWorld "x").platform describedRequest (templateWorld "x").machine
  obtain ⟨base, hbase, hparent, -⟩ := hlaw.1 _ hpath
  obtain ⟨u, -, hkept, hu⟩ := hlaw.2 rfl rfl
  have hfiles : u.files = (templateWorld "x").files := hkept ((templateWorld "x").keepsFiles _)
  obtain ⟨c, t, v, source, base', hgenerate, -⟩ := hu _ (hfiles ▸ hchanged)
  exact ⟨rfl, rfl, hchanged, by decide, hpath, ⟨base, hbase, hparent.mpr (by decide)⟩, v, c, t,
    hgenerate⟩

/-- **A slash in the name of a class** leads out of the directory for tests, though it may stand in
the name. -/
theorem slashName_not_in_directory :
    ¬ ∀ (fs : FileSystem) (className : Text) (source : Option FilePath) (base path : FilePath),
      (Value.str className).readName.toOption = some className →
      baseDirectory fs source = .ok base → defaultPath? fs className source = .ok path →
      path.parent = directory base := by
  intro h
  exact absurd (h {} "A/B" none _ _ rfl rfl rfl) (by decide +kernel)

end TestFile

end TestSkeleton
