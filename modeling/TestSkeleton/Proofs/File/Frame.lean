import TestSkeleton.Proofs.File.Path
import TestSkeleton.Proofs.File.System
import TestSkeleton.TestFile

set_option autoImplicit false

/-! # What writing a file leaves alone

Making the missing directories above a file adds directories where nothing was, and nothing else,
whether it succeeds or fails at some depth (`growsBy_makeDirectories`). Writing the file then
changes what is at the place that its path leads to. So all other files stay as they are
(`TestFile.write_changes_only_its_place`). Where links are on the way or at its end, the place is
not the one that the path names (`TestFile.linked_changes_elsewhere`).
-/

namespace TestSkeleton

open Text

namespace FileSystem

variable {fs fs' : FileSystem} {a p : FilePath} {l m : Location}

/-! ## Directories on the way -/

theorem holdsZero_of_begins {s t : Text} (h : s <+: t) (ht : holdsZero t = false) :
    holdsZero s = false := by
  rw [holdsZero, List.contains_eq_mem, decide_eq_false_iff_not] at ht ⊢
  exact fun hs => ht (h.subset hs)

theorem utf8ByteSize_of_begins {s t : Text} (h : s <+: t) :
    s.asString.utf8ByteSize ≤ t.asString.utf8ByteSize := by
  obtain ⟨u, rfl⟩ := h
  rw [asString, asString, String.ofList_append, String.utf8ByteSize_append]
  exact Nat.le_add_right _ _

theorem checkPath_eq_ok_iff {path : Text} :
    checkPath path = .ok ()
      ↔ holdsZero path = false ∧ path ≠ [] ∧ path.asString.utf8ByteSize < pathLimit := by
  unfold checkPath
  cases holdsZero path with
  | true => simp
  | false => cases path <;> simp

/-- The walk along the text of a path: from the root or the current directory through its names. -/
theorem locate_toText_eq_ok_iff (hp : p.IsProper) :
    fs.locate p.toText = .ok l
      ↔ checkPath p.toText = .ok ()
        ∧ fs.walkFrom (if p.isAbsolute then [] else fs.current) p.walkedNames = .ok l := by
  have hstart : startOf p.toText fs.current = if p.isAbsolute then [] else fs.current := by
    obtain ⟨c, t, ht⟩ := List.exists_cons_of_ne_nil (FilePath.toText_ne_nil hp)
    have hhead := FilePath.head?_toText hp
    rw [ht] at hhead ⊢
    have hstarts : startsWith ['/'] (c :: t) = p.isAbsolute := by
      have hc : (c == '/') = p.isAbsolute := by simpa using hhead
      rw [← hc, startsWith, dropPrefix?, Bool.beq_comm]
      cases c == '/' <;> rfl
    rw [startOf, hstarts]
  unfold locate
  rw [FilePath.namesToWalk_toText hp, hstart, bind_eq_ok_iff]
  constructor
  · rintro ⟨_, h⟩
    exact h
  · intro h
    exact ⟨(), h⟩

/-- A walk that ends in a directory can stay there. -/
theorem walkFrom_walkedNames {start : Location} (h : fs.walkFrom start p.names = .ok m)
    (hm : fs.entry? m = some .directory) : fs.walkFrom start p.walkedNames = .ok m := by
  by_cases hnames : p.names = []
  · rw [hnames] at h
    obtain rfl : start = m := Except.ok.inj h
    have hstay : fs.step start ['.'] = .ok start := by rw [step, hm]; rfl
    have hpass : fs.walk (linkLimit + 1) ⟨start, linkLimit⟩ [['.']] = .ok ⟨start, linkLimit⟩ := by
      rw [walk, List.foldlM_cons, pass_of_leadsOn?_eq_none hstay (by rw [hm]; rfl)]
      rfl
    rw [FilePath.walkedNames, if_pos hnames, walkFrom, hpass]
    rfl
  · rwa [FilePath.walkedNames, if_neg hnames]

/-- **What is above a path with a place** has a place too, where there is a directory. -/
theorem exists_locate_of_leadsTo (hp : p.IsProper) (ha : a.LeadsTo p.parent)
    (h : fs.locate p.toText = .ok l) :
    ∃ m, fs.locate a.toText = .ok m ∧ fs.entry? m = some .directory := by
  obtain ⟨hpath, hwalk⟩ := (locate_toText_eq_ok_iff hp).mp h
  obtain ⟨hzero, -, hlimit⟩ := checkPath_eq_ok_iff.mp hpath
  have hproper := hp.of_leadsTo ha.of_parent
  have hstart : a.isAbsolute = p.isAbsolute := by
    rw [FilePath.isAbsolute, FilePath.isAbsolute, ha.of_parent.1]
  -- the text of `a` is no harder to use than that of `p`
  obtain ⟨hzero', hlimit'⟩ :
      holdsZero a.toText = false ∧ a.toText.asString.utf8ByteSize < pathLimit := by
    rcases FilePath.toText_of_leadsTo ha.of_parent with hprefix | hpoint
    · exact ⟨holdsZero_of_begins hprefix hzero,
        (utf8ByteSize_of_begins hprefix).trans_lt hlimit⟩
    · rw [hpoint]
      decide
  obtain ⟨n, ns, hnames⟩ := ha.exists_walkedNames
  obtain ⟨w', hwalk, -⟩ := map_eq_ok_iff.mp hwalk
  rw [hnames, walk_append] at hwalk
  obtain ⟨w, hw, hrest⟩ := bind_eq_ok_iff.mp hwalk
  rw [walk, List.foldlM_cons] at hrest
  obtain ⟨_, hpass, -⟩ := bind_eq_ok_iff.mp hrest
  have hdirectory := entry?_of_pass hpass
  refine ⟨w.place, (locate_toText_eq_ok_iff hproper).mpr
    ⟨checkPath_eq_ok_iff.mpr ⟨hzero', FilePath.toText_ne_nil hproper, hlimit'⟩, ?_⟩, hdirectory⟩
  rw [hstart]
  exact walkFrom_walkedNames (map_eq_ok_iff.mpr ⟨w, hw, rfl⟩) hdirectory

/-! ## Growing -/

/-- From the first file system to the second one, directories were made where nothing was, at places
in `made`, and nothing else has changed. -/
structure GrowsBy (made : Location → Prop) (fs fs' : FileSystem) : Prop where
  current_eq : fs'.current = fs.current
  entry_cases (m : Location) :
    fs'.entry? m = fs.entry? m ∨ fs.entry? m = none ∧ fs'.entry? m = some .directory ∧ made m

namespace GrowsBy

variable {made made' : Location → Prop} {fs'' : FileSystem}

theorem refl (made : Location → Prop) (fs : FileSystem) : fs.GrowsBy made fs :=
  ⟨rfl, fun _ => .inl rfl⟩

theorem mono (h : fs.GrowsBy made fs') (hmade : ∀ m, made m → made' m) : fs.GrowsBy made' fs' :=
  ⟨h.current_eq, fun m =>
    (h.entry_cases m).imp_right fun ⟨hnone, hnew, hm⟩ => ⟨hnone, hnew, hmade m hm⟩⟩

/-- What was there before is there afterwards. -/
theorem entry?_of_some {e : Entry} (h : fs.GrowsBy made fs') (hm : fs.entry? m = some e) :
    fs'.entry? m = some e := by
  rcases h.entry_cases m with heq | ⟨hnone, -, -⟩
  · rw [heq, hm]
  · rw [hnone] at hm
    cases hm

theorem keepsWays (h : fs.GrowsBy made fs') : fs.KeepsWays fs' where
  current_eq := h.current_eq
  directory := h.entry?_of_some
  leadsOn?_eq m := by
    rcases h.entry_cases m with heq | ⟨hnone, hnew, -⟩
    · rw [heq]
    · rw [hnone, hnew]
      rfl

/-- A place that takes a file took one before. -/
theorem takesFile (h : fs.GrowsBy made fs') (hl : fs'.TakesFile l) : fs.TakesFile l := by
  rcases h.entry_cases l with heq | ⟨hnone, -, -⟩
  · rwa [TakesFile, heq] at hl
  · exact .inl hnone

theorem trans (h : fs.GrowsBy made fs') (h' : fs'.GrowsBy made fs'') : fs.GrowsBy made fs'' where
  current_eq := h'.current_eq.trans h.current_eq
  entry_cases m := by
    rcases h'.entry_cases m with heq | ⟨hnone, hnew, hm⟩
    · rw [heq]
      exact h.entry_cases m
    · rcases h.entry_cases m with heq | ⟨-, hdirectory, -⟩
      · exact .inr ⟨heq ▸ hnone, hnew, hm⟩
      · rw [hnone] at hdirectory
        cases hdirectory

end GrowsBy

theorem growsBy_put (h : fs.entry? l = none) : fs.GrowsBy (· = l) (fs.put l .directory) where
  current_eq := rfl
  entry_cases m := by
    by_cases hm : m = l
    · subst hm
      have hroot : m ≠ [] := by
        rintro rfl
        cases h
      exact .inr ⟨h, entry?_put_self hroot, rfl⟩
    · exact .inl (entry?_put_of_ne hm)

/-! ## Making directories -/

theorem isDirectory_iff {path : Text} :
    fs.isDirectory path = true ↔ ∃ l, fs.locate path = .ok l ∧ fs.entry? l = some .directory := by
  unfold isDirectory look
  cases fs.locate path with
  | error f => simp [Bind.bind, Except.bind, Except.toOption]
  | ok l =>
      rcases he : fs.entry? l with _ | (_ | _ | _ | _) <;>
        simp [Bind.bind, Except.bind, Except.toOption, he]

theorem namesToWalk_ne_nil (path : Text) : namesToWalk path ≠ [] := by
  intro h
  obtain ⟨hkept, hlast⟩ := List.append_eq_nil_iff.mp h
  obtain ⟨name, hname⟩ :=
    List.getLast?_isSome.mpr (splitOn_ne_nil '/' path) |> Option.isSome_iff_exists.mp
  have hempty : name = [] := by
    by_contra hne
    have hmem : name ∈ (splitOn '/' path).filter (!·.isEmpty) :=
      List.mem_filter.mpr ⟨List.mem_of_getLast? hname, by simpa using hne⟩
    rw [hkept] at hmem
    cases hmem
  rw [hname, hempty] at hlast
  cases hlast

/-- A path leads to its own place, unless something leads on from there. -/
theorem locate_of_locateName {path : Text} (h : fs.locateName path = .ok l)
    (hl : leadsOn? (fs.entry? l) = none) : fs.locate path = .ok l := by
  unfold locateName at h
  obtain ⟨⟨⟩, hpath, h⟩ := bind_eq_ok_iff.mp h
  obtain ⟨m, hm, hstep⟩ := bind_eq_ok_iff.mp h
  obtain ⟨w, hw, rfl⟩ := map_eq_ok_iff.mp hm
  have hnames :=
    List.dropLast_append_getLast? _ (List.getLast?_eq_some_getLast (namesToWalk_ne_nil path))
  rw [List.getLast?_eq_some_getLast (namesToWalk_ne_nil path), Option.getD_some] at hstep
  refine bind_eq_ok_iff.mpr ⟨(), hpath, map_eq_ok_iff.mpr ⟨{ w with place := l }, ?_, rfl⟩⟩
  rw [← hnames, walk_append, hw]
  change fs.walk (linkLimit + 1) w _ = _
  rw [walk, List.foldlM_cons, pass_of_leadsOn?_eq_none hstep hl]
  rfl

/-- A path that leads somewhere has a place of its own, from which something leads on otherwise. -/
theorem exists_locateName_of_locate {path : Text} (h : fs.locate path = .ok l) :
    ∃ m, fs.locateName path = .ok m ∧ (m = l ∨ leadsOn? (fs.entry? m) ≠ none) := by
  obtain ⟨⟨⟩, hpath, h⟩ := bind_eq_ok_iff.mp h
  obtain ⟨w', hw', rfl⟩ := map_eq_ok_iff.mp h
  obtain ⟨names, name, hnames⟩ := List.eq_nil_or_concat'  (namesToWalk path)
    |>.resolve_left (namesToWalk_ne_nil path)
  rw [hnames, walk_append] at hw'
  obtain ⟨w, hw, hlast⟩ := bind_eq_ok_iff.mp hw'
  rw [walk, List.foldlM_cons] at hlast
  obtain ⟨_, hpass, ⟨⟩⟩ := bind_eq_ok_iff.mp hlast
  rw [FileSystem.pass_eq] at hpass
  obtain ⟨m, hstep, hpass⟩ := bind_eq_ok_iff.mp hpass
  refine ⟨m, ?_, ?_⟩
  · unfold locateName
    simp only [hpath, hnames, List.dropLast_concat, List.getLast?_concat, Option.getD_some]
    exact bind_eq_ok_iff.mpr ⟨(), rfl, bind_eq_ok_iff.mpr
      ⟨w.place, map_eq_ok_iff.mpr ⟨w, hw, rfl⟩, hstep⟩⟩
  · by_cases hm : leadsOn? (fs.entry? m) = none
    · rw [hm] at hpass
      exact .inl (congrArg Walker.place (Except.ok.inj hpass))
    · exact .inr hm

theorem KeepsWays.locateName_eq {path : Text} (h : fs.KeepsWays fs')
    (hl : fs.locateName path = .ok l) : fs'.locateName path = .ok l := by
  unfold locateName at hl ⊢
  obtain ⟨⟨⟩, hpath, hl⟩ := bind_eq_ok_iff.mp hl
  obtain ⟨m, hm, hstep⟩ := bind_eq_ok_iff.mp hl
  rw [hpath, h.current_eq]
  refine bind_eq_ok_iff.mpr ⟨(), rfl, bind_eq_ok_iff.mpr ⟨m, h.walkFrom_eq hm, h.step_eq hstep⟩⟩

/-- The places of the paths that lead to a path. -/
def IsOnWay (fs : FileSystem) (p : FilePath) (m : Location) : Prop :=
  ∃ a : FilePath, a.LeadsTo p ∧ fs.locate a.toText = .ok m

/-- One directory is made, at the place of its path. -/
theorem growsBy_makeDirectory (h : fs.makeDirectory p.toText = .ok fs') :
    fs.GrowsBy (fs'.IsOnWay p) fs' ∧ fs'.isDirectory p.toText = true := by
  obtain ⟨l, hl, hnone, rfl⟩ := makeDirectory_eq_ok_iff.mp h
  have hroot : l ≠ [] := by
    rintro rfl
    cases hnone
  have hl' : (fs.put l .directory).locate p.toText = .ok l := by
    refine locate_of_locateName ((growsBy_put hnone).keepsWays.locateName_eq hl) ?_
    rw [entry?_put_self hroot]
    rfl
  refine ⟨(growsBy_put hnone).mono ?_, isDirectory_iff.mpr ⟨l, hl', entry?_put_self hroot⟩⟩
  rintro m rfl
  exact ⟨p, .refl p, hl'⟩

/-- The places on the way to the directory of a path stay on the way to the path. -/
theorem IsOnWay.grow {made : Location → Prop} (h : fs.IsOnWay p.parent m)
    (hgrow : fs.GrowsBy made fs') : fs'.IsOnWay p m := by
  obtain ⟨a, ha, hm⟩ := h
  exact ⟨a, ha.of_parent, hgrow.keepsWays.locate_eq hm⟩

/-- **Making the missing directories of a path**, which may fail at any depth, adds directories on
the way to the path and changes nothing else. -/
theorem growsBy_makeDirectories (p : FilePath) (fuel : Nat) (fs : FileSystem) :
    fs.GrowsBy ((makeDirectories p fuel fs).2.IsOnWay p) (makeDirectories p fuel fs).2 := by
  fun_induction makeDirectories p fuel fs with
  | case1 p fuel fs fs' h => exact (growsBy_makeDirectory h).1
  | case2 p fs => exact .refl _ fs
  | case3 p fs hmissing fuel fs' habove made h ih =>
      rw [habove] at ih
      have hgrow := (growsBy_makeDirectory h).1
      exact (ih.mono fun m hm => hm.grow hgrow).trans hgrow
  | case4 p fs hmissing fuel fs' habove f h hdirectory ih
  | case5 p fs hmissing fuel fs' habove f h hdirectory ih =>
      rw [habove] at ih
      exact ih.mono fun m hm => hm.grow (.refl (fun _ => False) fs')
  | case6 p fs hmissing fuel failed ih =>
      exact ih.mono fun m hm => hm.grow (.refl (fun _ => False) _)
  | case7 | case8 => exact .refl _ _

/-- Nothing is made where there is a directory already, nor where a link leads to one. -/
theorem makeDirectories_of_isDirectory {fuel : Nat} (h : fs.isDirectory p.toText = true) :
    makeDirectories p fuel fs = (.ok (), fs) := by
  obtain ⟨l, hl, hdirectory⟩ := isDirectory_iff.mp h
  obtain ⟨m, hm, hplace⟩ := exists_locateName_of_locate hl
  have hexists : fs.makeDirectory p.toText = .error .alreadyExists := by
    obtain ⟨e, he⟩ : ∃ e, fs.entry? m = some e := by
      rcases hplace with rfl | hleads
      · exact ⟨_, hdirectory⟩
      · exact Option.ne_none_iff_exists'.mp fun hnone => hleads (by rw [hnone]; rfl)
    unfold makeDirectory
    rw [hm]
    simp [Bind.bind, Except.bind, he]
  rw [makeDirectories.eq_def]
  dsimp only
  rw [hexists]
  exact if_pos h

/-! ## Writing files -/

section Write

variable {bytes later : List UInt8}

theorem put_put (fs : FileSystem) (l : Location) (e e' : Entry) :
    (fs.put l e).put l e' = fs.put l e' := by
  simp [put, List.filter_filter]

/-- A file is written behind the directories that are made above it. -/
theorem writeWithParents_eq_ok_iff :
    fs.writeWithParents p bytes = (.ok (), fs')
      ↔ ∃ above, makeDirectories p.parent p.names.length fs = (.ok (), above)
        ∧ above.write p.toText bytes = .ok fs' := by
  unfold writeWithParents
  split
  next above hmade =>
    rw [hmade]
    constructor
    · intro h
      cases hwrite : above.write p.toText bytes with
      | error f => rw [hwrite] at h; cases h
      | ok made => rw [hwrite] at h; cases h; exact ⟨above, rfl, hwrite⟩
    · rintro ⟨_, ⟨⟩, hwrite⟩
      rw [hwrite]
  next failed hfailed =>
    refine ⟨fun h => absurd h (hfailed fs'), ?_⟩
    rintro ⟨above, hmade, -⟩
    exact absurd hmade (hfailed above)

/-- If writing fails, at most directories were made. -/
theorem growsBy_of_writeWithParents {f : Failure}
    (h : fs.writeWithParents p bytes = (.error f, fs')) :
    fs.GrowsBy (fs'.IsOnWay p.parent) fs' := by
  have hgrow := growsBy_makeDirectories p.parent p.names.length fs
  unfold writeWithParents at h
  split at h
  next above hmade =>
    rw [hmade] at hgrow
    cases hwrite : above.write p.toText bytes with
    | ok made => rw [hwrite] at h; cases h
    | error f' => rw [hwrite] at h; cases h; exact hgrow
  next failed hfailed => rwa [h] at hgrow

/-- A file was written: it is at the place that its path leads to, where nothing was or a file, and
what else has changed are directories that were missing on the way. -/
structure HasWritten (p : FilePath) (bytes : List UInt8) (l : Location) (fs fs' : FileSystem) :
    Prop where
  current_eq : fs'.current = fs.current
  locate_eq : fs'.locate p.toText = .ok l
  entry?_eq : fs'.entry? l = some (.file bytes)
  takesFile : fs.TakesFile l
  entry?_of_ne {m : Location} (hm : m ≠ l) :
    fs'.entry? m = fs.entry? m
      ∨ fs.entry? m = none ∧ fs'.entry? m = some .directory ∧ fs'.IsOnWay p.parent m

/-- **What comes of writing a file**, if it succeeds. Then the file need not be put there again. -/
theorem hasWritten_of_writeWithParents (h : fs.writeWithParents p bytes = (.ok (), fs')) :
    ∃ l, fs.HasWritten p bytes l fs' ∧ fs'.put l (.file bytes) = fs' := by
  obtain ⟨above, hmade, hwrite⟩ := writeWithParents_eq_ok_iff.mp h
  obtain ⟨l, hl, htakes, rfl⟩ := write_eq_ok_iff.mp hwrite
  have hgrow : fs.GrowsBy (above.IsOnWay p.parent) above := by
    have hgrow := growsBy_makeDirectories p.parent p.names.length fs
    rwa [hmade] at hgrow
  have hkeeps : above.KeepsWays (above.put l (.file bytes)) := keepsWays_put htakes
  refine ⟨l, ⟨hgrow.current_eq, hkeeps.locate_eq hl, entry?_put_self htakes.ne_nil,
    hgrow.takesFile htakes, fun hm => ?_⟩, put_put above l _ _⟩
  rw [entry?_put_of_ne hm]
  refine (hgrow.entry_cases _).imp_right fun ⟨hnone, hnew, a, ha, hloc⟩ => ?_
  exact ⟨hnone, hnew, a, ha, hkeeps.locate_eq hloc⟩

/-- What is above a file that was written are directories. -/
theorem HasWritten.isDirectory (hp : p.IsProper) (h : fs.HasWritten p bytes l fs')
    (ha : a.LeadsTo p.parent) : fs'.isDirectory a.toText = true :=
  isDirectory_iff.mpr (exists_locate_of_leadsTo hp ha h.locate_eq)

/-- In a directory that is there a file is written, if its place takes one. -/
theorem writeWithParents_of_isDirectory (hparent : fs.isDirectory p.parent.toText = true)
    (hl : fs.locate p.toText = .ok l) (htakes : fs.TakesFile l) :
    fs.writeWithParents p bytes = (.ok (), fs.put l (.file bytes)) :=
  writeWithParents_eq_ok_iff.mpr ⟨fs, makeDirectories_of_isDirectory hparent,
    write_eq_ok_iff.mpr ⟨l, hl, htakes, rfl⟩⟩

/-- **A file that is there** is written in the same place again, and nothing else changes. -/
theorem HasWritten.writeWithParents_eq (hp : p.IsProper) (h : fs.HasWritten p bytes l fs') :
    fs'.writeWithParents p later = (.ok (), fs'.put l (.file later)) := by
  exact writeWithParents_of_isDirectory (h.isDirectory hp (.refl p.parent)) h.locate_eq
    (.inr ⟨bytes, h.entry?_eq⟩)

theorem HasWritten.keepsWays (h : fs.HasWritten p bytes l fs') : fs.KeepsWays fs' where
  current_eq := h.current_eq
  directory := by
    intro m hm
    have hne : m ≠ l := fun hml => h.takesFile.ne_directory (hml ▸ hm)
    rcases h.entry?_of_ne hne with heq | ⟨hnone, -, -⟩
    · rw [heq, hm]
    · rw [hnone] at hm
      cases hm
  leadsOn?_eq m := by
    by_cases hm : m = l
    · rw [hm, h.entry?_eq, h.takesFile.leadsOn?_eq]
      rfl
    · rcases h.entry?_of_ne hm with heq | ⟨hnone, hnew, -⟩
      · rw [heq]
      · rw [hnone, hnew]
        rfl

/-- Whether a file is written or not, what has changed is the file itself and directories that were
missing on the way to it. -/
theorem entry?_writeWithParents (h : (fs.writeWithParents p bytes).2 = fs') (m : Location) :
    fs'.entry? m = fs.entry? m
      ∨ fs'.entry? m = some .directory ∧ fs'.IsOnWay p.parent m
      ∨ fs'.entry? m = some (.file bytes) ∧ fs'.locate p.toText = .ok m := by
  rcases hresult : fs.writeWithParents p bytes with ⟨r, files⟩
  obtain rfl : files = fs' := by rw [← h, hresult]
  cases r with
  | error f =>
      exact ((growsBy_of_writeWithParents hresult).entry_cases m).imp_right fun ⟨_, hnew, hm⟩ =>
        .inl ⟨hnew, hm⟩
  | ok =>
      obtain ⟨l, hwritten, -⟩ := hasWritten_of_writeWithParents hresult
      by_cases hm : m = l
      · exact .inr (.inr (hm ▸ ⟨hwritten.entry?_eq, hwritten.locate_eq⟩))
      · exact (hwritten.entry?_of_ne hm).imp_right fun ⟨_, hnew, hm⟩ => .inl ⟨hnew, hm⟩

theorem isFile_iff {path : Text} :
    fs.isFile path = true
      ↔ ∃ l bytes, fs.locate path = .ok l ∧ fs.entry? l = some (.file bytes) := by
  unfold isFile look
  cases fs.locate path with
  | error f => simp [Bind.bind, Except.bind]
  | ok l =>
      rcases he : fs.entry? l with _ | (_ | _ | _ | _) <;> simp [Bind.bind, Except.bind, he]

/-- What a file was written behind were no files. -/
theorem HasWritten.isFile_eq_false (hp : p.IsProper) (h : fs.HasWritten p bytes l fs')
    (ha : a.LeadsTo p.parent) : fs.isFile a.toText = false := by
  rw [Bool.eq_false_iff, Ne, isFile_iff]
  rintro ⟨m, content, hm, hfile⟩
  obtain ⟨m', hm', hdirectory⟩ := isDirectory_iff.mp (h.isDirectory hp ha)
  obtain rfl : m = m' := Except.ok.inj ((h.keepsWays.locate_eq hm).symm.trans hm')
  have hne : m ≠ l := by
    rintro rfl
    rw [h.entry?_eq] at hdirectory
    cases hdirectory
  rcases h.entry?_of_ne hne with heq | ⟨hnone, -, -⟩
  · rw [heq, hfile] at hdirectory
    cases hdirectory
  · rw [hnone] at hfile
    cases hfile

theorem HasWritten.isDirectory_eq_false (h : fs.HasWritten p bytes l fs') :
    fs.isDirectory p.toText = false := by
  rw [Bool.eq_false_iff, Ne, isDirectory_iff]
  rintro ⟨m, hm, hdirectory⟩
  obtain rfl : m = l := Except.ok.inj ((h.keepsWays.locate_eq hm).symm.trans h.locate_eq)
  exact h.takesFile.ne_directory hdirectory

/-- **No file is written** where a directory is or behind a file. -/
theorem writeWithParents_fails (hp : p.IsProper)
    (h : fs.isDirectory p.toText = true
      ∨ ∃ a : FilePath, a.LeadsTo p.parent ∧ fs.isFile a.toText = true) :
    ∃ f, (fs.writeWithParents p bytes).1 = .error f := by
  rcases hresult : fs.writeWithParents p bytes with ⟨r, fs'⟩
  cases r with
  | error f => exact ⟨f, rfl⟩
  | ok =>
      obtain ⟨l, hwritten, -⟩ := hasWritten_of_writeWithParents hresult
      rcases h with hdirectory | ⟨a, ha, hfile⟩
      · rw [hwritten.isDirectory_eq_false] at hdirectory
        cases hdirectory
      · rw [hwritten.isFile_eq_false hp ha] at hfile
        cases hfile

end Write

end FileSystem

namespace TestFile

/-- **Writing a test file changes only what it must.** If it succeeds, the file that the path leads
to, through all links, holds the bytes of the text, what is above it are directories, and all other
places are as they were but for directories that were missing above the file. Writing the text again
changes nothing, and another text written later takes its place. If it fails, at most directories
that were missing above the file were made. It does fail where a directory is or where a file is in
the way, and it succeeds in a directory that is there if the place takes a file. -/
theorem write_changes_only_its_place (fs : FileSystem) (path content : Text) :
    let p := FilePath.ofText path
    (∀ fs', write p content fs = (.ok (), fs') →
      fs'.read p.toText = .ok (encode content)
      ∧ (∀ a : FilePath, a.LeadsTo p.parent → fs'.isDirectory a.toText = true)
      ∧ (∃ l, fs.HasWritten p (encode content) l fs')
      ∧ write p content fs' = (.ok (), fs')
      ∧ ∀ later, ∃ fs'', write p later fs' = (.ok (), fs'')
        ∧ fs''.read p.toText = .ok (encode later)
        ∧ ∀ m, fs'.locate p.toText ≠ .ok m → fs''.entry? m = fs'.entry? m)
    ∧ (∀ f fs', write p content fs = (.error f, fs') → fs.GrowsBy (fs'.IsOnWay p.parent) fs')
    ∧ (fs.isDirectory p.toText = true
        ∨ (∃ a : FilePath, a.LeadsTo p.parent ∧ fs.isFile a.toText = true) →
      ∃ f, (write p content fs).1 = .error f)
    ∧ (fs.isDirectory p.parent.toText = true → ∀ l, fs.locate p.toText = .ok l → fs.TakesFile l →
      ∃ fs', write p content fs = (.ok (), fs')) := by
  intro p
  have hp : p.IsProper := FilePath.isProper_ofText path
  refine ⟨fun fs' h => ?_, fun f fs' h => FileSystem.growsBy_of_writeWithParents h,
    FileSystem.writeWithParents_fails hp,
    fun hparent l hl htakes => ⟨_, FileSystem.writeWithParents_of_isDirectory hparent hl htakes⟩⟩
  obtain ⟨l, hwritten, hput⟩ := FileSystem.hasWritten_of_writeWithParents h
  have hagain (later : Text) : write p later fs' = (.ok (), fs'.put l (.file (encode later))) :=
    hwritten.writeWithParents_eq hp
  refine ⟨FileSystem.read_of_writeWithParents h, fun a ha => hwritten.isDirectory hp ha,
    ⟨l, hwritten⟩, ?_, fun later => ?_⟩
  · rw [hagain content, hput]
  · refine ⟨_, hagain later, FileSystem.read_of_writeWithParents (hagain later), fun m hm => ?_⟩
    refine FileSystem.entry?_put_of_ne ?_
    rintro rfl
    exact hm hwritten.locate_eq

/-- A directory with a file in it, and what becomes of it when a test file is written to a directory
of its own beside that file, or is to be written behind it. -/
def library : FileSystem where
  entries := [(["lib"], .directory), (["lib", "a.py"], .file [97])]
def libraryWithTest : FileSystem :=
  (library.put ["lib", "tests"] .directory).put ["lib", "tests", "b.py"] (.file [98])
def libraryWithDirectory : FileSystem := library.put ["lib", "new"] .directory

/-- A directory is made and the file is written to it; then another text is written there. One path
has a file in the way, which is only found when a directory has been made already, and one leads to
a directory. -/
theorem library_changes_only_its_place :
    write (.ofText "lib/tests/b.py") "b" library = (.ok (), libraryWithTest)
    ∧ libraryWithTest.read (FilePath.ofText "lib/tests/b.py").toText = .ok (encode "b")
    ∧ (∃ l, library.HasWritten (.ofText "lib/tests/b.py") (encode "b") l libraryWithTest)
    ∧ libraryWithTest.isDirectory (FilePath.ofText "lib/tests/b.py").parent.toText = true
    ∧ (∃ fs, write (.ofText "lib/tests/b.py") "" libraryWithTest = (.ok (), fs))
    ∧ write (.ofText "lib/new/../a.py/b.py") "b" library
        = (.error ⟨.alreadyExists, "lib/new/../a.py"⟩, libraryWithDirectory)
    ∧ library.GrowsBy
        (libraryWithDirectory.IsOnWay (FilePath.ofText "lib/new/../a.py/b.py").parent)
        libraryWithDirectory
    ∧ library.isDirectory (FilePath.ofText "lib").toText = true
    ∧ ∃ f, (write (.ofText "lib") "b" library).1 = .error f := by
  have hwritten : write (.ofText "lib/tests/b.py") "b" library = (.ok (), libraryWithTest) := by
    decide +kernel
  have hparent :
      libraryWithTest.isDirectory (FilePath.ofText "lib/tests/b.py").parent.toText = true := by
    decide +kernel
  have hlocate : libraryWithTest.locate (FilePath.ofText "lib/tests/b.py").toText
      = .ok ["lib", "tests", "b.py"] := by
    decide +kernel
  have hobstructed : write (.ofText "lib/new/../a.py/b.py") "b" library
      = (.error ⟨.alreadyExists, "lib/new/../a.py"⟩, libraryWithDirectory) := by
    decide +kernel
  have hdirectory : library.isDirectory (FilePath.ofText "lib").toText = true := by decide +kernel
  obtain ⟨hread, -, hplace, -⟩ :=
    (write_changes_only_its_place library "lib/tests/b.py" "b").1 _ hwritten
  exact ⟨hwritten, hread, hplace, hparent,
    (write_changes_only_its_place libraryWithTest "lib/tests/b.py" "").2.2.2 hparent _ hlocate
      (.inr ⟨[98], by decide⟩),
    hobstructed,
    (write_changes_only_its_place library "lib/new/../a.py/b.py" "b").2.1 _ _ hobstructed,
    hdirectory, (write_changes_only_its_place library "lib" "b").2.2.1 (.inl hdirectory)⟩

/-- A file with a link to it, and a link to where nothing is; and what becomes of them when a test
file is written through one link or the other. -/
def linked : FileSystem where
  entries := [(["a.py"], .link "b.py"), (["b.py"], .file [98]), (["c.py"], .link "d.py")]
def linkedWithTest : FileSystem := linked.put ["b.py"] (.file [97])
def linkedWithNew : FileSystem := linked.put ["d.py"] (.file [97])

/-- **A file written through a link** is another file than its path names: one that was there
changes, or one is made in another place. -/
theorem linked_changes_elsewhere :
    write (.ofText "a.py") "a" linked = (.ok (), linkedWithTest)
    ∧ linked.read "b.py" = .ok (encode "b") ∧ linkedWithTest.read "b.py" = .ok (encode "a")
    ∧ write (.ofText "c.py") "a" linked = (.ok (), linkedWithNew)
    ∧ linked.pathExists "d.py" = false ∧ linkedWithNew.isFile "d.py" = true := by
  decide +kernel

end TestFile

end TestSkeleton
