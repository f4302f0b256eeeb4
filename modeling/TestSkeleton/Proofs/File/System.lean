import Mathlib.Data.List.Basic
import TestSkeleton.File.System
import TestSkeleton.Proofs.Result

set_option autoImplicit false

/-! # Reading what was written

A file that was written can be read again at the same path (`read_of_write`). A walk along a path
passes through directories and follows links, so it takes the same way as long as these stay
(`KeepsWays.locate_eq`), and a file is never written where a directory is. No operation changes the
current directory.
-/

namespace TestSkeleton.FileSystem

variable {fs fs' : FileSystem} {l m : Location} {e : Entry} {w w' : Walker}

/-! ## Entries -/

theorem entry?_put_self (h : l ≠ []) : FileSystem.entry? (fs.put l e) l = some e := by
  simp [put, FileSystem.entry?, h]

theorem lookup_filter_ne (entries : List (Location × Entry)) (h : m ≠ l) :
    (entries.filter fun x => x.1 != l).lookup m = entries.lookup m := by
  induction entries with
  | nil => rfl
  | cons x entries ih =>
      by_cases hx : x.1 = l
      · have hm : (m == x.1) = false := by simpa [hx] using h
        rw [List.filter_cons_of_neg (by simp [hx]), ih, List.lookup_cons, hm]
      · rw [List.filter_cons_of_pos (by simpa using hx), List.lookup_cons, List.lookup_cons, ih]

theorem entry?_put_of_ne (h : m ≠ l) : FileSystem.entry? (fs.put l e) m = fs.entry? m := by
  have hm : (m == l) = false := by simpa using h
  simp only [FileSystem.entry?, put, List.lookup_cons, hm, lookup_filter_ne fs.entries h]

/-- A file can be put at the place: nothing is there, or a file. -/
def TakesFile (fs : FileSystem) (l : Location) : Prop :=
  fs.entry? l = none ∨ ∃ bytes, fs.entry? l = some (.file bytes)

theorem TakesFile.ne_nil (h : fs.TakesFile l) : l ≠ [] := by
  rintro rfl
  rcases h with h | ⟨bytes, h⟩ <;> cases h

theorem TakesFile.ne_directory (h : fs.TakesFile l) : fs.entry? l ≠ some .directory := by
  rcases h with h | ⟨bytes, h⟩ <;> rw [h] <;> nofun

/-! ## Walks -/

/-- A step only leads on from a directory. -/
theorem entry?_of_step {name : Text} (h : fs.step m name = .ok l) :
    fs.entry? m = some .directory := by
  unfold step at h
  split at h
  next => cases h
  next hm => exact hm
  next => cases h

/-- What leads on from a place: a link, or the further name of a file. -/
def leadsOn? : Option Entry → Option Entry
  | some (.link target) => some (.link target)
  | some (.another m) => some (.another m)
  | _ => none

theorem TakesFile.leadsOn?_eq (h : fs.TakesFile l) : leadsOn? (fs.entry? l) = none := by
  rcases h with h | ⟨bytes, h⟩ <;> rw [h] <;> rfl

theorem pass_eq (follow : Walker → List Text → Except FileFault Walker) (name : Text) :
    fs.pass follow w name = (do
      let l ← fs.step w.place name
      match leadsOn? (fs.entry? l) with
      | some (.link target) =>
        match w.links with
        | 0 => .error .tooManyLinks
        | n + 1 => follow ⟨startOf target w.place, n⟩ (namesToWalk target)
      | some (.another m) => .ok { w with place := m }
      | _ => .ok { w with place := l }) := by
  unfold pass
  refine bind_congr fun l => ?_
  rcases fs.entry? l with _ | (_ | _ | _ | _) <;> rfl

/-- A walk that goes on is in a directory. -/
theorem entry?_of_pass {follow : Walker → List Text → Except FileFault Walker} {name : Text}
    (h : fs.pass follow w name = .ok w') : fs.entry? w.place = some .directory := by
  rw [pass] at h
  obtain ⟨l, hstep, -⟩ := bind_eq_ok_iff.mp h
  exact entry?_of_step hstep

/-- A walk goes on to where nothing leads on from. -/
theorem pass_of_leadsOn?_eq_none {follow : Walker → List Text → Except FileFault Walker} {name : Text}
    (hstep : fs.step w.place name = .ok l) (hl : leadsOn? (fs.entry? l) = none) :
    fs.pass follow w name = .ok { w with place := l } := by
  simp [pass_eq, hstep, hl, Bind.bind, Except.bind]

theorem walk_append (depth : Nat) (names names' : List Text) :
    fs.walk depth w (names ++ names') = fs.walk depth w names >>= fun w => fs.walk depth w names' := by
  cases depth with
  | zero => rfl
  | succ depth => rw [walk, List.foldlM_append]; rfl

/-- The directories of the first file system, among them the current one, and what leads on in it
are those of the second one too. -/
structure KeepsWays (fs fs' : FileSystem) : Prop where
  current_eq : fs'.current = fs.current
  directory : ∀ {l}, fs.entry? l = some .directory → fs'.entry? l = some .directory
  leadsOn?_eq : ∀ l, leadsOn? (fs'.entry? l) = leadsOn? (fs.entry? l)

/-- A file that is put in its place leaves the ways as they are. -/
theorem keepsWays_put {bytes : List UInt8} (h : fs.TakesFile l) :
    fs.KeepsWays (fs.put l (.file bytes)) where
  current_eq := rfl
  directory := by
    intro m hm
    have hne : m ≠ l := fun hml => h.ne_directory (hml ▸ hm)
    rw [entry?_put_of_ne hne, hm]
  leadsOn?_eq := by
    intro m
    by_cases hm : m = l
    · rw [hm, entry?_put_self h.ne_nil, h.leadsOn?_eq]
      rfl
    · rw [entry?_put_of_ne hm]

namespace KeepsWays

variable (h : fs.KeepsWays fs')

include h

theorem step_eq {name : Text} (hstep : fs.step m name = .ok l) : fs'.step m name = .ok l := by
  have hm := entry?_of_step hstep
  unfold step at hstep ⊢
  rw [h.directory hm]
  rwa [hm] at hstep

theorem pass_eq {follow follow' : Walker → List Text → Except FileFault Walker} {name : Text}
    (hfollow : ∀ w names w', follow w names = .ok w' → follow' w names = .ok w')
    (hpass : fs.pass follow w name = .ok w') : fs'.pass follow' w name = .ok w' := by
  rw [FileSystem.pass_eq] at hpass ⊢
  obtain ⟨l, hstep, hpass⟩ := bind_eq_ok_iff.mp hpass
  rw [bind_eq_ok_iff]
  refine ⟨l, h.step_eq hstep, ?_⟩
  rw [h.leadsOn?_eq]
  split at hpass
  next target hl =>
    split at hpass
    next => cases hpass
    next n hlinks => exact hfollow _ _ _ hpass
  next => exact hpass
  next => exact hpass

/-- A walk that comes to its end takes the same way as long as the ways stay. The induction is on
how deep links are inside of links. -/
theorem walk_eq {depth : Nat} {names : List Text} (hwalk : fs.walk depth w names = .ok w') :
    fs'.walk depth w names = .ok w' := by
  induction depth generalizing w w' names with
  | zero => cases hwalk
  | succ depth ih =>
      rw [walk] at hwalk ⊢
      induction names generalizing w with
      | nil => exact hwalk
      | cons name names ihnames =>
          rw [List.foldlM_cons] at hwalk ⊢
          obtain ⟨v, hpass, hwalk⟩ := bind_eq_ok_iff.mp hwalk
          rw [h.pass_eq (fun _ _ _ => ih) hpass]
          exact ihnames hwalk

theorem walkFrom_eq {names : List Text} (hwalk : fs.walkFrom m names = .ok l) :
    fs'.walkFrom m names = .ok l := by
  unfold walkFrom at hwalk ⊢
  obtain ⟨w, hw, rfl⟩ := map_eq_ok_iff.mp hwalk
  rw [h.walk_eq hw]
  rfl

theorem locate_eq {path : Text} (hl : fs.locate path = .ok l) : fs'.locate path = .ok l := by
  unfold locate at hl ⊢
  obtain ⟨⟨⟩, hpath, hl⟩ := bind_eq_ok_iff.mp hl
  rw [hpath, h.current_eq]
  exact h.walkFrom_eq hl

end KeepsWays

/-! ## Files -/

theorem look_of_locate {path : Text} {bytes : List UInt8} (hl : fs.locate path = .ok l)
    (he : fs.entry? l = some (.file bytes)) : fs.look path = .ok (.file bytes) := by
  simp [look, hl, he, Bind.bind, Except.bind]

/-- Writing a file puts it where its path leads to, if the place takes a file. -/
theorem write_eq_ok_iff {path : Text} {bytes : List UInt8} :
    fs.write path bytes = .ok fs'
      ↔ ∃ l, fs.locate path = .ok l ∧ fs.TakesFile l ∧ fs' = fs.put l (.file bytes) := by
  unfold write TakesFile
  rw [bind_eq_ok_iff]
  refine exists_congr fun l => and_congr_right fun _ => ?_
  rcases fs.entry? l with _ | (_ | _ | _ | _) <;> simp [eq_comm (a := fs')]

/-- **A written file** holds the bytes that were written to it. -/
theorem read_of_write {path : Text} {bytes : List UInt8} (h : fs.write path bytes = .ok fs') :
    fs'.read path = .ok bytes := by
  obtain ⟨l, hl, htakes, rfl⟩ := write_eq_ok_iff.mp h
  have hl' : (fs.put l (.file bytes)).locate path = .ok l := (keepsWays_put htakes).locate_eq hl
  rw [read, look_of_locate hl' (entry?_put_self htakes.ne_nil)]
  rfl

/-- The same, with missing directories made on the way. -/
theorem read_of_writeWithParents {path : FilePath} {bytes : List UInt8}
    (h : fs.writeWithParents path bytes = (.ok (), fs')) : fs'.read path.toText = .ok bytes := by
  unfold writeWithParents at h
  split at h
  next fs'' _ =>
    cases hwrite : fs''.write path.toText bytes with
    | error f => rw [hwrite] at h; cases h
    | ok _ => rw [hwrite] at h; cases h; exact read_of_write hwrite
  next failed hfailed => exact absurd h (hfailed fs')

/-! ## The current directory -/

/-- Making a directory puts it at the place of its path, where nothing may be. -/
theorem makeDirectory_eq_ok_iff {path : Text} :
    fs.makeDirectory path = .ok fs'
      ↔ ∃ l, fs.locateName path = .ok l ∧ fs.entry? l = none ∧ fs' = fs.put l .directory := by
  unfold makeDirectory
  rw [bind_eq_ok_iff]
  refine exists_congr fun l => and_congr_right fun _ => ?_
  cases fs.entry? l with
  | none => simp [eq_comm (a := fs')]
  | some e => simp

theorem current_makeDirectory {path : Text} (h : fs.makeDirectory path = .ok fs') :
    fs'.current = fs.current := by
  obtain ⟨l, -, -, rfl⟩ := makeDirectory_eq_ok_iff.mp h
  rfl

/-- Making directories stays in the current directory, also when it fails. -/
theorem current_makeDirectories (path : FilePath) (fuel : Nat) :
    (makeDirectories path fuel fs).2.current = fs.current := by
  fun_induction makeDirectories path fuel fs with
  | case1 path fuel fs fs' h => exact current_makeDirectory h
  | case2 => rfl
  | case3 path fs _ fuel fs' habove fs'' h ih =>
      rw [habove] at ih
      exact (current_makeDirectory h).trans ih
  | case4 path fs _ fuel fs' habove f _ _ ih | case5 path fs _ fuel fs' habove f _ _ ih =>
      rw [habove] at ih
      exact ih
  | case6 path fs _ fuel _ ih => exact ih
  | case7 | case8 => rfl

end TestSkeleton.FileSystem
