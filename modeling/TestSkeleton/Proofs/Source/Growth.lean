import TestSkeleton.Proofs.Source.Loading
import TestSkeleton.Proofs.Source.NewClass
import TestSkeleton.Proofs.Source.Runs

set_option autoImplicit false

/-! # How tables of classes grow

A statement leaves the classes as they are that were made before, and each class that it adds was
made from a draft that binds each name once (`grows_of_runs`). So all classes of a module were made
from such drafts, and those of the modules before it too: a class that is loaded is one of a table
that was built in this way (`exists_isBuilt_of_load`).
-/

namespace TestSkeleton

open Text

/-! ## Growth -/

namespace ClassTable

/-- The second table has the classes of the first one and then others that were made from drafts,
each of which binds each name once. -/
structure Grows (t t' : ClassTable) : Prop where
  kept : t.classes <+: t'.classes
  made : ∀ n, t.classes.length ≤ n → n < t'.classes.length →
    ∃ d : ClassDraft, d.names.IsDistinct ∧ t'.IsMade d (.declared n)

variable {t t' t'' : ClassTable} {d : ClassDraft} {c : ClassRef}

/-- A class stays as it was made. -/
theorem IsMade.of_prefix (h : t.IsMade d c) (hkept : t.classes <+: t'.classes) : t'.IsMade d c := by
  obtain ⟨made, kept⟩ := h
  exact ⟨made, kept.trans hkept⟩

namespace Grows

theorem refl (t : ClassTable) : t.Grows t :=
  ⟨List.prefix_refl _, fun _ hle hlt => absurd hlt (Nat.not_lt.mpr hle)⟩

theorem trans (h : t.Grows t') (h' : t'.Grows t'') : t.Grows t'' := by
  refine ⟨h.kept.trans h'.kept, fun n hle hlt => ?_⟩
  by_cases hn : n < t'.classes.length
  · obtain ⟨d, hnames, hd⟩ := h.made n hle hn
    exact ⟨d, hnames, hd.of_prefix h'.kept⟩
  · exact h'.made n (Nat.not_lt.mp hn) hlt

/-- A new class is made from its draft. -/
theorem of_declare (hnames : d.names.IsDistinct) (h : t.declare d = .ok (t', c)) :
    t.Grows t' := by
  obtain ⟨-, -, made, -, hself, hclasses, -⟩ := exists_of_declare h
  refine ⟨by rw [hclasses]; exact List.prefix_append _ _, fun n hle hlt => ?_⟩
  -- the only new number is that of the class itself
  have hn : n = t.classes.length := by
    rw [hclasses, List.length_append, List.length_singleton] at hlt
    omega
  subst hn
  subst hself
  exact ⟨d, hnames, h, List.prefix_refl _⟩

end Grows

/-- All classes of the table were made from drafts that bind each name once. -/
def IsBuilt (t : ClassTable) : Prop := Grows {} t

theorem isBuilt_empty : IsBuilt {} := .refl _

theorem IsBuilt.grow (h : t.IsBuilt) (hgrown : t.Grows t') : t'.IsBuilt := h.trans hgrown

theorem IsBuilt.declare (h : t.IsBuilt) (hnames : d.names.IsDistinct)
    (hmade : t.declare d = .ok (t', c)) : t'.IsBuilt := h.grow (.of_declare hnames hmade)

/-- **A class of such a table has each attribute once.** -/
theorem IsBuilt.isDistinct_own (h : t.IsBuilt) {n : Nat} {made : DeclaredClass}
    (hmade : t.declared? n = some made) : made.own.IsDistinct := by
  have hn : n < t.classes.length := (List.getElem?_eq_some_iff.mp hmade).1
  obtain ⟨d, hnames, hd⟩ := Grows.made h n (Nat.zero_le n) hn
  obtain ⟨m, made', before, -, form, hself, hmade', -, -, -, -, hown⟩ := hd.exists_declared
  cases hself
  obtain rfl : made = made' := Option.some.inj (hmade.symm.trans hmade')
  exact hown ▸ isDistinct_ownLayer hnames before form made.maker

end ClassTable

/-! ## Statements -/

namespace Execution

variable {known : Text → Bool} {s : Surroundings} {x y : Execution}

@[simp] theorem table_bind (name : Text) (b : Binding) (x : Execution) :
    (x.bind name b).table = x.table := by
  unfold bind
  split <;> rfl

/-- The class around the statement has each name once so far. -/
def HasDistinctLocals (x : Execution) : Prop := (x.locals.getD []).IsDistinct

theorem HasDistinctLocals.bind (h : x.HasDistinctLocals) (name : Text) (b : Binding) :
    (x.bind name b).HasDistinctLocals := by
  unfold HasDistinctLocals at h ⊢
  unfold Execution.bind
  cases hlocals : x.locals with
  | none =>
      rw [hlocals] at h
      simpa [hlocals] using h
  | some names =>
      rw [hlocals] at h
      exact Layer.isDistinct_bind h

theorem isDistinct_firstNames {qualifiedName : Text} {doc : Option Text} {names : Layer}
    (h : firstNames x qualifiedName doc = .ok names) : names.IsDistinct := by
  unfold firstNames at h
  obtain ⟨module, -, h⟩ := bind_eq_ok_iff.mp h
  cases h
  have hnames : ["__module__".toList, "__qualname__".toList, Builtin.docName].Nodup := by decide
  cases doc with
  | none => exact hnames.sublist (List.sublist_append_left ["__module__".toList, _] _)
  | some d => exact hnames

/-- A class that is made from names that are bound once each is one more class of that kind. -/
theorem grows_of_makeClass {name : Text} {given? : Option Binding} {bases : List Binding}
    {names : Layer} (h : (makeClass s name given? bases names x).result = .ok y)
    (hnames : names.IsDistinct) (hlocals : x.HasDistinctLocals) :
    x.table.Grows y.table ∧ y.HasDistinctLocals := by
  obtain ⟨table, b, rfl, htable⟩ := exists_of_makeClass h
  have hmade : HasDistinctLocals { x with table } := hlocals
  rw [table_bind]
  refine ⟨?_, hmade.bind _ _⟩
  rcases htable with rfl | ⟨d, self, rfl, hdeclare⟩
  · exact .refl _
  · exact .of_declare hnames hdeclare

/-- **What statements do to the table of classes.** -/
theorem grows_of_runs {is : List Item} (h : Runs known s x is y) (hlocals : x.HasDistinctLocals) :
    x.table.Grows y.table ∧ y.HasDistinctLocals := by
  induction h with
  | done => exact ⟨.refl _, hlocals⟩
  | comment _ ih | text _ ih => exact ih hlocals
  | binds _ _ ih =>
      have hrest := ih (hlocals.bind _ _)
      rwa [table_bind] at hrest
  | block _ _ ihinside ih =>
      obtain ⟨hinside, hlocals⟩ := ihinside hlocals
      obtain ⟨hrest, hlocals⟩ := ih hlocals
      exact ⟨hinside.trans hrest, hlocals⟩
  | cls _ _ _ hnames _ hmade _ ihinside ih =>
      -- the body binds its names beside those it starts with, and the names around it come back
      obtain ⟨hinside, hbound⟩ := ihinside (isDistinct_firstNames hnames)
      obtain ⟨hclass, hlocals⟩ := grows_of_makeClass hmade hbound hlocals
      obtain ⟨hrest, hlocals⟩ := ih hlocals
      exact ⟨hinside.trans (hclass.trans hrest), hlocals⟩

/-- **What a module does to the table of classes.** -/
theorem grows_of_run {before : Execution} {o : Origin} {m : SourceModule}
    (h : (run known before o m).result = .ok y) (hlocals : before.HasDistinctLocals) :
    before.table.Grows y.table ∧ y.HasDistinctLocals := by
  unfold run at h
  split at h
  next => cases h
  next =>
    have hgrown := grows_of_runs (result_steps_eq_ok_iff.mp h) hlocals
    exact hgrown

end Execution

/-! ## Programs -/

/-- All classes were made from drafts that bind each name once. -/
structure Execution.IsBuilt (x : Execution) : Prop where
  table : x.table.IsBuilt
  locals : x.HasDistinctLocals

theorem Execution.IsBuilt.run {known : Text → Bool} {before x : Execution} {o : Origin}
    {m : SourceModule} (hbefore : before.IsBuilt)
    (h : (Execution.run known before o m).result = .ok x) : x.IsBuilt := by
  obtain ⟨hgrown, hlocals⟩ := grows_of_run h hbefore.locals
  exact ⟨hbefore.table.grow hgrown, hlocals⟩

namespace CodeBase

variable {b : CodeBase} {x y : Execution}

theorem isBuilt_of_runNamed {name : Text} {m : SourceModule} (hx : x.IsBuilt)
    (h : (b.runNamed x name m).result = .ok y) : y.IsBuilt := by
  obtain ⟨z, hz, h⟩ := Logged.result_bind_eq_ok_iff.mp h
  cases h
  have hbuilt := hx.run hz
  exact ⟨hbuilt.table, hbuilt.locals⟩

/-- The classes of what has been imported before were made from drafts. -/
theorem isBuilt_known (b : CodeBase) : b.known.IsBuilt :=
  importAll_keeps (fun _ _ _ _ => isBuilt_of_runNamed) b.modules
    ⟨ClassTable.isBuilt_empty, Layer.isDistinct_nil⟩

theorem isBuilt_of_runFile {path : FilePath} (h : (b.runFile path).result = .ok x) :
    x.IsBuilt := b.isBuilt_known.run (exists_of_runFile h)

theorem isBuilt_of_importModule {module : Text} (h : (b.importModule module).result = .ok x) :
    x.IsBuilt := by
  unfold importModule at h
  split at h
  next => cases h
  next =>
    exact importNamed_keeps (fun _ _ _ _ => isBuilt_of_runNamed)
      (fun x names hx => ⟨hx.table, hx.locals⟩) (Logged.result_mapError_eq_ok_iff.mp h)
      b.isBuilt_known

/-- **A class that is loaded is one of a table that was built from drafts.** -/
theorem exists_isBuilt_of_load {r : ClassRequest} {c : SourceClass}
    (h : (b.load r).result = .ok c) :
    ∃ (x : Execution) (self : ClassRef), x.table.IsBuilt ∧ c = x.sourceClass self := by
  obtain ⟨x, self, hself, ⟨path, hx⟩ | ⟨module, hx⟩⟩ := exists_of_load h
  · exact ⟨x, self, (isBuilt_of_runFile hx).table, hself⟩
  · exact ⟨x, self, (isBuilt_of_importModule hx).table, hself⟩

end CodeBase

end TestSkeleton
