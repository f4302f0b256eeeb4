import TestSkeleton.Source.ClassTable

set_option autoImplicit false

/-! # Looking attributes up in classes

An attribute of a class is that of the first of its ancestors that has one. What operators ask for
has to be declared (`declaredAttribute?`): built-in classes have none of it, and a class with
built-in ancestors only what is its own (`declaredAttribute?_eq_lookup`).
-/

namespace TestSkeleton

/-- A built-in class comes first in its linearization. -/
theorem Builtin.linearization_cons (cls : Text) :
    ∃ names, Builtin.linearization cls = cls :: names := by
  unfold Builtin.linearization Builtin.ancestry
  split
  · exact ⟨_, rfl⟩
  · exact ⟨_, rfl⟩

namespace ClassTable

variable {t : ClassTable} {c : ClassRef} {cs : List ClassRef} {b : Binding} {name : Text}

theorem derivesFrom_self (t : ClassTable) (cls : Text) :
    t.derivesFrom (.builtin cls) cls = true := by
  obtain ⟨names, hnames⟩ := Builtin.linearization_cons cls
  simp [derivesFrom, isSubclass, linearization, hnames]

theorem find?_of_linearization (h : t.linearization c = cs) :
    t.find? c name = t.firstOwner? name cs := by
  rw [find?, h]

theorem firstOwner?_of_none (h : t.own? name c = none) :
    t.firstOwner? name (c :: cs) = t.firstOwner? name cs := by
  rw [firstOwner?, h]

theorem firstOwner?_of_some (h : t.own? name c = some b) :
    t.firstOwner? name (c :: cs) = some (c, b) := by
  rw [firstOwner?, h]

/-- Among built-in classes, a built-in one is found. -/
theorem firstOwner?_builtin {names : List Text} {r : ClassRef × Binding}
    (h : t.firstOwner? name (names.map .builtin) = some r) : ∃ cls, r.1 = .builtin cls := by
  induction names with
  | nil => cases h
  | cons cls names ih =>
      rw [List.map_cons, firstOwner?] at h
      split at h
      · cases h
        exact ⟨cls, rfl⟩
      · exact ih h

theorem declaredAttribute?_of_firstOwner? {names : List Text}
    (h : t.find? c name = t.firstOwner? name (names.map .builtin)) :
    t.declaredAttribute? c name = none := by
  rw [declaredAttribute?, h]
  split
  next n b hfirst =>
    obtain ⟨cls, hcls⟩ := firstOwner?_builtin hfirst
    cases hcls
  next => rfl

variable (t)

theorem own?_builtin (name cls : Text) :
    t.own? name (.builtin cls) = Builtin.ownAttribute? cls name := rfl

/-- No attribute of a built-in class comes from a declared one. -/
theorem declaredAttribute?_builtin (cls name : Text) :
    t.declaredAttribute? (.builtin cls) name = none :=
  declaredAttribute?_of_firstOwner? (find?_of_linearization rfl)

variable {t}

/-- **If all ancestors of a class are built-in ones, only the class itself declares attributes.** -/
theorem declaredAttribute?_eq_lookup {n : Nat} {made : DeclaredClass} {names : List Text}
    (hmade : t.declared? n = some made)
    (horder : made.linearization = .declared n :: names.map .builtin) :
    t.declaredAttribute? (.declared n) name = made.own.lookup name := by
  have hown : t.own? name (.declared n) = made.own.lookup name := by
    rw [own?, hmade, Option.bind_some]
  have hlinearization : t.linearization (.declared n) = .declared n :: names.map .builtin := by
    rw [linearization, hmade, Option.map_some, Option.getD_some, horder]
  have hfind : t.find? (.declared n) name
      = t.firstOwner? name (.declared n :: names.map .builtin) :=
    find?_of_linearization hlinearization
  cases hlookup : made.own.lookup name with
  | some b => rw [declaredAttribute?, hfind, firstOwner?_of_some (hown.trans hlookup)]
  | none =>
      rw [firstOwner?_of_none (hown.trans hlookup)] at hfind
      exact declaredAttribute?_of_firstOwner? hfind

end ClassTable

end TestSkeleton
