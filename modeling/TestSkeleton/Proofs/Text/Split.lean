import Mathlib.Data.List.Basic
import TestSkeleton.Proofs.Text.Parts

set_option autoImplicit false

/-! # Pieces between separators

A text is the pieces between its separators, joined again (`joinWith_splitOn`), and none of them
holds the separator. Texts without the separator are the pieces of what they are joined to
(`splitOn_joinWith`).
-/

namespace TestSkeleton.Text

variable {sep c : Char} {s t : Text}

theorem splitOn_ne_nil (sep : Char) (t : Text) : splitOn sep t ≠ [] := by
  fun_cases splitOn sep t <;> simp

theorem splitOn_cons_self (sep : Char) (t : Text) :
    splitOn sep (sep :: t) = [] :: splitOn sep t := by
  rw [splitOn, beq_self_eq_true, if_pos rfl]

theorem splitOn_cons_of_ne (h : c ≠ sep) (t : Text) :
    splitOn sep (c :: t) = match splitOn sep t with
      | [] => [[c]]
      | p :: ps => (c :: p) :: ps := by
  rw [splitOn, beq_eq_false_iff_ne.mpr h]
  rfl

/-- A separator takes the pieces apart. -/
theorem splitOn_append_cons (sep : Char) (s t : Text) :
    splitOn sep (s ++ sep :: t) = splitOn sep s ++ splitOn sep t := by
  induction s with
  | nil => exact splitOn_cons_self sep t
  | cons c s ih =>
      rw [List.cons_append]
      by_cases hc : c = sep
      · rw [hc, splitOn_cons_self, splitOn_cons_self, ih, List.cons_append]
      · obtain ⟨p, ps, hps⟩ := List.exists_cons_of_ne_nil (splitOn_ne_nil sep s)
        rw [splitOn_cons_of_ne hc, splitOn_cons_of_ne hc, ih, hps]
        rfl

theorem splitOn_of_not_mem (h : sep ∉ t) : splitOn sep t = [t] := by
  induction t with
  | nil => rfl
  | cons c t ih =>
      obtain ⟨hc, ht⟩ := not_or.mp (List.mem_cons.not.mp h)
      rw [splitOn_cons_of_ne (Ne.symm hc), ih ht]

/-- The pieces hold no separator. -/
theorem not_mem_of_mem_splitOn (h : s ∈ splitOn sep t) : sep ∉ s := by
  fun_induction splitOn sep t generalizing s with
  | case1 => simp_all
  | case2 c t hc ih =>
      rcases List.mem_cons.mp h with rfl | h
      · exact List.not_mem_nil
      · exact ih h
  | case3 c t hc hls ih => exact absurd hls (splitOn_ne_nil sep t)
  | case4 c t hc p ps hls ih =>
      rw [hls] at ih
      rcases List.mem_cons.mp h with rfl | h
      · have hp : sep ∉ p := ih List.mem_cons_self
        have hne : sep ≠ c := fun he => hc (by rw [he, beq_self_eq_true])
        exact fun hmem => (List.mem_cons.mp hmem).elim hne hp
      · exact ih (List.mem_cons_of_mem p h)

/-- **Texts without the separator** are the pieces of what they are joined to. -/
theorem splitOn_joinWith {ts : List Text} (hne : ts ≠ []) (h : ∀ t ∈ ts, sep ∉ t) :
    splitOn sep (joinWith [sep] ts) = ts := by
  induction ts with
  | nil => exact absurd rfl hne
  | cons t ts ih =>
      obtain ⟨ht, hts⟩ := List.forall_mem_cons.mp h
      cases ts with
      | nil => rw [joinWith_singleton, splitOn_of_not_mem ht]
      | cons t' ts =>
          rw [joinWith_cons_cons, List.append_assoc, List.singleton_append, splitOn_append_cons,
            splitOn_of_not_mem ht, ih (List.cons_ne_nil t' ts) hts]
          rfl

/-- **Every text is made of its pieces.** -/
theorem joinWith_splitOn (sep : Char) (t : Text) : joinWith [sep] (splitOn sep t) = t := by
  fun_induction splitOn sep t with
  | case1 => rfl
  | case2 c t hc ih =>
      obtain rfl : c = sep := by simpa using hc
      obtain ⟨p, ps, hps⟩ := List.exists_cons_of_ne_nil (splitOn_ne_nil c t)
      rw [hps] at ih ⊢
      rw [joinWith_cons_cons, ih]
      rfl
  | case3 c t hc hls ih => exact absurd hls (splitOn_ne_nil sep t)
  | case4 c t hc p ps hls ih =>
      rw [hls] at ih
      cases ps with
      | nil => rw [joinWith_singleton] at ih ⊢; rw [ih]
      | cons q qs =>
          rw [joinWith_cons_cons, List.append_assoc] at ih ⊢
          rw [List.cons_append, ih]

theorem length_splitOn (sep : Char) (t : Text) : (splitOn sep t).length = t.count sep + 1 := by
  induction t with
  | nil => rfl
  | cons c t ih =>
      by_cases hc : c = sep
      · rw [hc, splitOn_cons_self, List.length_cons, ih, List.count_cons_self]
      · obtain ⟨p, ps, hps⟩ := List.exists_cons_of_ne_nil (splitOn_ne_nil sep t)
        rw [splitOn_cons_of_ne hc, List.count_cons_of_ne hc, ← ih, hps]
        rfl

/-- The characters of a text are separators and those of the pieces. -/
theorem eq_or_mem_flatten_splitOn (h : c ∈ t) : c = sep ∨ c ∈ (splitOn sep t).flatten := by
  induction t with
  | nil => cases h
  | cons d t ih =>
      by_cases hd : d = sep
      · rw [hd, List.mem_cons] at h
        rw [hd, splitOn_cons_self]
        exact h.elim .inl ih
      · obtain ⟨q, qs, hqs⟩ := List.exists_cons_of_ne_nil (splitOn_ne_nil sep t)
        rw [hqs] at ih
        rw [splitOn_cons_of_ne hd, hqs]
        rcases List.mem_cons.mp h with rfl | h
        · exact .inr (.head _)
        · exact (ih h).imp_right (List.mem_cons_of_mem d)

/-- Characters other than the separator can be left out before the text is cut, or afterwards. -/
theorem splitOn_filter {p : Char → Bool} (h : p sep = true) (t : Text) :
    splitOn sep (t.filter p) = (splitOn sep t).map (List.filter p) := by
  induction t with
  | nil => rfl
  | cons c t ih =>
      by_cases hc : c = sep
      · rw [hc, List.filter_cons_of_pos h, splitOn_cons_self, splitOn_cons_self, ih, List.map_cons,
          List.filter_nil]
      · obtain ⟨q, qs, hqs⟩ := List.exists_cons_of_ne_nil (splitOn_ne_nil sep t)
        rw [hqs, List.map_cons] at ih
        rw [splitOn_cons_of_ne hc, hqs, List.map_cons]
        by_cases hp : p c = true
        · rw [List.filter_cons_of_pos hp, splitOn_cons_of_ne hc, ih, List.filter_cons_of_pos hp]
        · rw [List.filter_cons_of_neg hp, ih, List.filter_cons_of_neg hp]

/-- What holds no separator goes on the last piece. -/
theorem splitOn_append_of_not_mem {init : List Text} {last : Text}
    (h : splitOn sep t = init ++ [last]) (hs : sep ∉ s) :
    splitOn sep (t ++ s) = init ++ [last ++ s] := by
  induction t generalizing init last with
  | nil =>
      obtain ⟨rfl, rfl⟩ : init = [] ∧ [] = last := by
        simpa using List.append_eq_singleton_iff.mp h.symm
      exact splitOn_of_not_mem hs
  | cons c t ih =>
      obtain ⟨p, ps, hps⟩ := List.exists_cons_of_ne_nil (splitOn_ne_nil sep t)
      rw [List.cons_append]
      by_cases hc : c = sep
      · rw [hc, splitOn_cons_self] at h ⊢
        cases init with
        | nil =>
            obtain ⟨-, hnil⟩ := List.cons.inj h
            exact absurd hnil (splitOn_ne_nil sep t)
        | cons q init =>
            obtain ⟨rfl, htail⟩ := List.cons.inj h
            rw [ih htail, List.cons_append]
      · rw [splitOn_cons_of_ne hc, hps] at h
        rw [splitOn_cons_of_ne hc]
        cases init with
        | nil =>
            obtain ⟨rfl, rfl⟩ := List.cons.inj h
            have hpieces : splitOn sep t = [] ++ [p] := hps
            rw [ih hpieces]
            rfl
        | cons q init =>
            obtain ⟨rfl, rfl⟩ := List.cons.inj h
            have hpieces : splitOn sep t = (p :: init) ++ [last] := hps
            rw [ih hpieces]
            rfl

end TestSkeleton.Text
