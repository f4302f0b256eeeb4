import Mathlib.Data.List.Infix
import TestSkeleton.File.System
import TestSkeleton.Proofs.Text.Split

set_option autoImplicit false

/-! # Paths as texts

The text of a path that was read shows its names: a walk along the text goes through just these
(`namesToWalk_toText`). A path leads to another one if the names of the second go on behind those of
the first, and then its text is no longer (`toText_of_leadsTo`).
-/

namespace TestSkeleton

open Text

namespace FilePath

variable {a p q : FilePath}

/-! ## Proper paths -/

/-- The root and the names of a path are such as reading a path gives them. -/
structure IsProper (p : FilePath) : Prop where
  root_mem : p.root ∈ ([[], ['/'], ['/', '/']] : List Text)
  names : ∀ n ∈ p.names, n ≠ [] ∧ n ≠ ['.'] ∧ '/' ∉ n

theorem rootOf_mem (t : Text) : rootOf t ∈ ([[], ['/'], ['/', '/']] : List Text) := by
  fun_cases rootOf t <;> simp

/-- **Paths that are read** are proper. -/
theorem isProper_ofText (t : Text) : (ofText t).IsProper where
  root_mem := rootOf_mem t
  names n hn := by
    obtain ⟨hsplit, hkept⟩ := List.mem_filter.mp hn
    simp only [Bool.not_eq_true', Bool.or_eq_false_iff, List.isEmpty_eq_false_iff,
      beq_eq_false_iff_ne] at hkept
    exact ⟨hkept.1, hkept.2, not_mem_of_mem_splitOn hsplit⟩

/-! ## Texts of paths -/

theorem toText_of_ne_nil (h : p.names ≠ []) : p.toText = p.root ++ joinWith ['/'] p.names := by
  simp [toText, h]

theorem toText_ne_nil (hp : p.IsProper) : p.toText ≠ [] := by
  unfold toText
  split
  next => exact List.cons_ne_nil _ _
  next h =>
    intro hnil
    obtain ⟨hroot, hjoin⟩ := List.append_eq_nil_iff.mp hnil
    cases hnames : p.names with
    | nil => exact h (by rw [hroot, hnames]; rfl)
    | cons n ns =>
        have hn : n ≠ [] := (hp.names n (hnames ▸ List.mem_cons_self)).1
        rw [hnames] at hjoin
        cases ns with
        | nil => exact hn (by rwa [joinWith_singleton] at hjoin)
        | cons n' ns => simp [joinWith_cons_cons, hn] at hjoin

/-- The names that a walk along the path goes through. Without names it stays where it starts. -/
def walkedNames (p : FilePath) : List Text := if p.names = [] then [['.']] else p.names

/-- The names to walk along are those between slashes, apart from empty ones in front. -/
theorem filter_names {names : List Text} (hne : names ≠ []) (h : ∀ n ∈ names, n ≠ []) (k : Nat) :
    let parts := List.replicate k [] ++ names
    parts.filter (!·.isEmpty) ++ (if parts.getLast? == some [] then [['.']] else []) = names := by
  intro parts
  have hfilter : parts.filter (!·.isEmpty) = names := by
    rw [List.filter_append, List.filter_eq_nil_iff.mpr, List.nil_append, List.filter_eq_self]
    · exact fun n hn => by simp [h n hn]
    · exact fun n hn => by simp [List.eq_of_mem_replicate hn]
  have hlast : parts.getLast? = some (names.getLast hne) := by
    rw [List.getLast?_append_of_ne_nil _ hne, List.getLast?_eq_some_getLast hne]
  rw [hfilter, hlast, if_neg, List.append_nil]
  simpa using h _ (List.getLast_mem hne)

/-- **A walk along the text of a path** goes through the names of the path. -/
theorem namesToWalk_toText (hp : p.IsProper) :
    FileSystem.namesToWalk p.toText = p.walkedNames := by
  unfold walkedNames
  by_cases hnames : p.names = []
  · rw [if_pos hnames, toText, hnames]
    have hroot := hp.root_mem
    simp only [List.mem_cons, List.not_mem_nil, or_false] at hroot
    rcases hroot with h | h | h <;> rw [h] <;> rfl
  · rw [if_neg hnames, toText_of_ne_nil hnames]
    have hsplit : splitOn '/' (joinWith ['/'] p.names) = p.names :=
      splitOn_joinWith hnames fun n hn => (hp.names n hn).2.2
    have hroot : ∃ k, splitOn '/' (p.root ++ joinWith ['/'] p.names)
        = List.replicate k [] ++ p.names := by
      have hroot := hp.root_mem
      simp only [List.mem_cons, List.not_mem_nil, or_false] at hroot
      rcases hroot with h | h | h
      · exact ⟨0, by rw [h]; exact hsplit⟩
      · refine ⟨1, ?_⟩
        rw [h, List.cons_append, splitOn_cons_self, List.nil_append, hsplit]
        rfl
      · refine ⟨2, ?_⟩
        rw [h, List.cons_append, List.cons_append, splitOn_cons_self, splitOn_cons_self,
          List.nil_append, hsplit]
        rfl
    obtain ⟨k, hk⟩ := hroot
    unfold FileSystem.namesToWalk
    rw [hk]
    exact filter_names hnames (fun n hn => (hp.names n hn).1) k

/-- The text of a path starts with a slash just if the path starts at the root. -/
theorem head?_toText (hp : p.IsProper) : (p.toText.head? == some '/') = p.isAbsolute := by
  have hroot := hp.root_mem
  simp only [List.mem_cons, List.not_mem_nil, or_false] at hroot
  rcases hroot with h | h | h
  · cases hnames : p.names with
    | nil => rw [toText, isAbsolute, h, hnames]; rfl
    | cons n ns =>
        obtain ⟨hn, -, hslash⟩ := hp.names n (hnames ▸ List.mem_cons_self)
        obtain ⟨c, u, rfl⟩ := List.exists_cons_of_ne_nil hn
        have hc : c ≠ '/' := fun hc => hslash (hc ▸ List.mem_cons_self)
        have hhead : p.toText.head? = some c := by
          rw [toText_of_ne_nil (by rw [hnames]; exact List.cons_ne_nil _ _), h, hnames]
          cases ns with
          | nil => rw [joinWith_singleton]; rfl
          | cons n' ns => rw [joinWith_cons_cons]; rfl
        rw [hhead, isAbsolute, h]
        simpa using hc
  all_goals simp [toText, isAbsolute, h]

/-! ## Leading to a path -/

/-- The first path is passed on the way along the second one, or is the second one. -/
def LeadsTo (a p : FilePath) : Prop := a.root = p.root ∧ a.names <+: p.names

theorem LeadsTo.refl (p : FilePath) : p.LeadsTo p := ⟨rfl, List.prefix_rfl⟩

/-- What leads to the directory of a path leads to the path. -/
theorem LeadsTo.of_parent (h : a.LeadsTo p.parent) : a.LeadsTo p :=
  ⟨h.1, h.2.trans (List.dropLast_prefix p.names)⟩

/-- A walk along a path goes through the names of each path that leads to its directory, and then
through a further one. -/
theorem LeadsTo.exists_walkedNames (h : a.LeadsTo p.parent) :
    ∃ n ns, p.walkedNames = a.names ++ n :: ns := by
  obtain ⟨-, ms, hms⟩ := h
  by_cases hnames : p.names = []
  · have ha : a.names = [] := (List.append_eq_nil_iff.mp (hms.trans (by simp [parent, hnames]))).1
    exact ⟨['.'], [], by rw [walkedNames, if_pos hnames, ha]; rfl⟩
  · have hlast : p.names = a.names ++ ms ++ [p.names.getLast hnames] := by
      rw [hms]
      exact (List.dropLast_append_getLast hnames).symm
    rw [walkedNames, if_neg hnames, hlast, List.append_assoc]
    cases ms with
    | nil => exact ⟨_, [], rfl⟩
    | cons n ns => exact ⟨n, ns ++ [p.names.getLast hnames], rfl⟩

theorem IsProper.of_leadsTo (hp : p.IsProper) (h : a.LeadsTo p) : a.IsProper :=
  ⟨h.1 ▸ hp.root_mem, fun n hn => hp.names n (h.2.subset hn)⟩

theorem joinWith_prefix_append {sep : Text} {ns : List Text} (h : ns ≠ []) (ms : List Text) :
    joinWith sep ns <+: joinWith sep (ns ++ ms) := by
  induction ns with
  | nil => exact absurd rfl h
  | cons n ns ih =>
      cases ns with
      | nil =>
          rw [joinWith_singleton]
          cases ms with
          | nil => rw [List.append_nil, joinWith_singleton]
          | cons m ms =>
              rw [List.singleton_append, joinWith_cons_cons, List.append_assoc]
              exact List.prefix_append n _
      | cons n' ns =>
          rw [List.cons_append, List.cons_append, joinWith_cons_cons, joinWith_cons_cons]
          exact (List.prefix_append_right_inj _).mpr (ih (List.cons_ne_nil n' ns))

/-- **The text of a path that leads to another one** is where the text of the other one starts, but
for the point that stands for the current directory. -/
theorem toText_of_leadsTo (h : a.LeadsTo p) : a.toText <+: p.toText ∨ a.toText = ['.'] := by
  obtain ⟨hroot, ms, hms⟩ := h
  by_cases hnames : a.names = []
  · by_cases hempty : a.root = []
    · exact Or.inr (by rw [toText, hempty, hnames]; rfl)
    · refine Or.inl ?_
      have ha : a.toText = p.root := by simp [toText, hnames, ← hroot, hempty, joinWith]
      have hp : p.toText = p.root ++ joinWith ['/'] p.names := by simp [toText, ← hroot, hempty]
      rw [ha, hp]
      exact List.prefix_append _ _
  · refine Or.inl ?_
    have hp : p.names ≠ [] := by
      rw [← hms]
      exact List.append_ne_nil_of_left_ne_nil hnames ms
    rw [toText_of_ne_nil hnames, toText_of_ne_nil hp, hroot, ← hms]
    exact (List.prefix_append_right_inj _).mpr (joinWith_prefix_append hnames ms)

end FilePath

end TestSkeleton
