import TestSkeleton.Source.Binding

set_option autoImplicit false

/-! # Looking names up in layers

Binding a name changes what that name stands for and nothing else, and a name that is bound only if
it was missing changes nothing where it stood for something before. A layer that has each name once
(`IsDistinct`) keeps to that, whatever is bound in it.
-/

namespace TestSkeleton.Layer

variable {l : Layer} {n m : Text} {b : Binding}

theorem lookup_bind_self : (l.bind n b).lookup n = some b := by
  induction l with
  | nil => simp [bind]
  | cons a l ih =>
      rw [bind]
      split
      next ha => simp
      next ha =>
        have hne : (n == a.1) = false := beq_false_of_ne fun h => ha (by simp [h])
        rw [List.lookup_cons]
        simp only [hne, ih]

theorem lookup_bind_of_ne (h : n ≠ m) : (l.bind m b).lookup n = l.lookup n := by
  have hne : (n == m) = false := beq_false_of_ne h
  induction l with
  | nil => simp [bind, List.lookup_cons, hne]
  | cons a l ih =>
      rw [bind]
      split
      next ha =>
        rw [List.lookup_cons, List.lookup_cons, eq_of_beq ha]
        simp only [hne]
      next => rw [List.lookup_cons, List.lookup_cons, ih]

/-- What is missing is bound behind all others. -/
theorem lookup_bindMissing :
    (l.bindMissing m b).lookup n = (l.lookup n).or (List.lookup n [(m, b)]) := by
  unfold bindMissing
  split
  next hbound =>
    by_cases hn : n = m
    · subst hn
      rw [Option.or_of_isSome hbound]
    · have hne : (n == m) = false := beq_false_of_ne hn
      simp [List.lookup_cons, hne]
  next => rw [List.lookup_append]

theorem lookup_foldl_bindMissing (added l : Layer) :
    (added.foldl (fun l a => l.bindMissing a.1 a.2) l).lookup n
      = (l.lookup n).or (added.lookup n) := by
  induction added generalizing l with
  | nil => simp
  | cons a added ih =>
      have hcons : List.lookup n (a :: added)
          = (List.lookup n [a]).or (List.lookup n added) := by
        rw [← List.lookup_append, List.singleton_append]
      rw [List.foldl_cons, ih, lookup_bindMissing, Option.or_assoc, hcons]

/-! ## Each name once -/

/-- The layer has each name once. -/
def IsDistinct (l : Layer) : Prop := (l.map Prod.fst).Nodup

instance (l : Layer) : Decidable l.IsDistinct :=
  inferInstanceAs (Decidable (l.map Prod.fst).Nodup)

theorem isDistinct_nil : IsDistinct [] := List.nodup_nil

theorem isDistinct_cons {a : Text × Binding} :
    IsDistinct (a :: l) ↔ a.1 ∉ l.map Prod.fst ∧ l.IsDistinct := List.nodup_cons

theorem isDistinct_of_sublist {l' : Layer} (h : l'.Sublist l) (hl : l.IsDistinct) :
    l'.IsDistinct := hl.sublist (h.map Prod.fst)

/-- What is bound has the names of before and the name itself. -/
theorem mem_names_bind : m ∈ (l.bind n b).map Prod.fst ↔ m = n ∨ m ∈ l.map Prod.fst := by
  induction l with
  | nil => simp [bind]
  | cons a l ih =>
      rw [bind]
      split
      next ha =>
        obtain rfl : a.1 = n := eq_of_beq ha
        simp
      next =>
        rw [List.map_cons, List.mem_cons, ih, List.map_cons, List.mem_cons]
        exact or_left_comm

theorem isDistinct_bind (h : l.IsDistinct) : (l.bind n b).IsDistinct := by
  induction l with
  | nil => exact isDistinct_cons.mpr ⟨List.not_mem_nil, isDistinct_nil⟩
  | cons a l ih =>
      obtain ⟨ha, hl⟩ := isDistinct_cons.mp h
      rw [bind]
      split
      next han =>
        obtain rfl : a.1 = n := eq_of_beq han
        exact isDistinct_cons.mpr ⟨ha, hl⟩
      next han =>
        refine isDistinct_cons.mpr ⟨fun hmem => ?_, ih hl⟩
        rcases mem_names_bind.mp hmem with heq | hmem
        · exact han (beq_iff_eq.mpr heq)
        · exact ha hmem

theorem isDistinct_bindMissing (h : l.IsDistinct) : (l.bindMissing n b).IsDistinct := by
  unfold bindMissing
  split
  next => exact h
  next hmissing =>
    have hn : n ∉ l.map Prod.fst := by
      intro hmem
      obtain ⟨a, ha, rfl⟩ := List.mem_map.mp hmem
      rw [Option.not_isSome_iff_eq_none, List.lookup_eq_none_iff] at hmissing
      exact absurd (beq_self_eq_true a.1) (by simpa using hmissing a ha)
    rw [IsDistinct, List.map_append, List.map_singleton, List.nodup_append]
    refine ⟨h, by simp, fun c hc d hd => ?_⟩
    rw [List.mem_singleton.mp hd]
    rintro rfl
    exact hn hc

theorem isDistinct_foldl_bindMissing {added : Layer} (h : l.IsDistinct) :
    (added.foldl (fun l a => l.bindMissing a.1 a.2) l).IsDistinct := by
  induction added generalizing l with
  | nil => exact h
  | cons a added ih => exact ih (isDistinct_bindMissing h)

end TestSkeleton.Layer
