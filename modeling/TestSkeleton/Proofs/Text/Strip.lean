import Mathlib.Data.List.DropRight
import TestSkeleton.Text.Basic

set_option autoImplicit false

/-! # Blank space at the ends of a text

How `stripStart`, `stripEnd` and `strip` act on texts that are put together from parts, some of them
blank. The end of a text is stripped by the library's `List.rdropWhile`.
-/

namespace TestSkeleton.Text

/-- The text consists of blank space. -/
def AllBlank (t : Text) : Prop := ∀ c ∈ t, isBlank c = true

instance (t : Text) : Decidable (AllBlank t) := List.decidableBAll _ t

variable {s t : Text} {c : Char}

theorem allBlank_append : AllBlank (s ++ t) ↔ AllBlank s ∧ AllBlank t := by
  simp [AllBlank, or_imp, forall_and]

theorem allBlank_replicate (n : Nat) : AllBlank (List.replicate n ' ') := by
  intro c hc
  rw [List.eq_of_mem_replicate hc]
  rfl

/-! ## The start -/

theorem stripStart_append_of_allBlank (h : AllBlank s) : stripStart (s ++ t) = stripStart t :=
  List.dropWhile_append_of_pos h

theorem stripStart_cons_of_not_blank (h : isBlank c = false) : stripStart (c :: t) = c :: t :=
  List.dropWhile_cons_of_neg (by simp [h])

/-- A character that is not blank keeps what is behind it. -/
theorem stripStart_append_cons (h : isBlank c = false) (s t : Text) :
    stripStart (s ++ c :: t) = stripStart s ++ c :: t := by
  rw [stripStart, List.dropWhile_append]
  split
  next hs =>
    rw [stripStart, List.isEmpty_iff.mp hs, List.dropWhile_cons_of_neg (by simp [h])]
    rfl
  next => rfl

theorem stripStart_eq_nil_iff : stripStart t = [] ↔ AllBlank t := List.dropWhile_eq_nil_iff

/-- What is left of a text without its blank start does not start with blank space. -/
theorem isBlank_of_stripStart_eq_cons (h : stripStart s = c :: t) : isBlank c = false := by
  have hhead := List.head?_dropWhile_not isBlank s
  rw [← stripStart, h] at hhead
  exact hhead

theorem exists_blank_append_stripStart (t : Text) : ∃ p, AllBlank p ∧ t = p ++ stripStart t :=
  ⟨t.takeWhile isBlank, fun _ hc => List.mem_takeWhile_imp hc,
    List.takeWhile_append_dropWhile.symm⟩

/-! ## The end -/

theorem stripEnd_eq_rdropWhile (t : Text) : stripEnd t = t.rdropWhile isBlank := rfl

theorem stripEnd_eq_nil_iff : stripEnd t = [] ↔ AllBlank t := List.rdropWhile_eq_nil_iff

theorem stripEnd_append_of_allBlank (h : AllBlank t) : stripEnd (s ++ t) = stripEnd s := by
  have hrev : ∀ c ∈ t.reverse, isBlank c = true := fun c hc => h c (List.mem_reverse.mp hc)
  rw [stripEnd, stripEnd, dropEndWhile, dropEndWhile, List.reverse_append,
    List.dropWhile_append_of_pos hrev]

theorem stripEnd_append_of_not_allBlank (h : ¬ AllBlank t) :
    stripEnd (s ++ t) = s ++ stripEnd t := by
  have hne : (t.reverse.dropWhile isBlank).isEmpty = false := by
    rw [List.isEmpty_eq_false_iff]
    exact fun hnil => h (stripEnd_eq_nil_iff.mp (by rw [stripEnd, dropEndWhile, hnil]; rfl))
  rw [stripEnd, stripEnd, dropEndWhile, dropEndWhile, List.reverse_append, List.dropWhile_append,
    if_neg (by simp [hne]), List.reverse_append, List.reverse_reverse]

theorem stripEnd_concat_of_not_blank (h : isBlank c = false) : stripEnd (s ++ [c]) = s ++ [c] :=
  List.rdropWhile_concat_neg _ _ _ (by simp [h])

theorem stripEnd_cons_of_not_blank (h : isBlank c = false) :
    stripEnd (c :: t) = c :: stripEnd t := by
  by_cases ht : AllBlank t
  · rw [stripEnd_eq_nil_iff.mpr ht]
    exact (stripEnd_append_of_allBlank (s := [c]) ht).trans
      (stripEnd_concat_of_not_blank (s := []) h)
  · exact stripEnd_append_of_not_allBlank (s := [c]) ht

/-- A character that is not blank keeps what is in front of it. -/
theorem stripEnd_append_cons (h : isBlank c = false) (s t : Text) :
    stripEnd (s ++ c :: t) = s ++ c :: stripEnd t := by
  have hvisible : ¬ AllBlank (c :: t) := fun hall => by
    have hc := hall c List.mem_cons_self
    rw [h] at hc
    cases hc
  rw [stripEnd_append_of_not_allBlank hvisible, stripEnd_cons_of_not_blank h]

/-- The last character of a text without its blank end is not blank. -/
theorem isBlank_getLast?_stripEnd (h : (stripEnd t).getLast? = some c) : isBlank c = false := by
  have hne : t.rdropWhile isBlank ≠ [] := by
    rintro hnil
    rw [stripEnd_eq_rdropWhile, hnil] at h
    cases h
  have hlast := List.rdropWhile_last_not isBlank t hne
  rw [stripEnd_eq_rdropWhile, List.getLast?_eq_some_getLast hne] at h
  rw [Option.some.inj h] at hlast
  simpa using hlast

/-! ## Both ends -/

theorem strip_sublist (t : Text) : (strip t).Sublist t :=
  (List.rdropWhile_prefix isBlank _).sublist.trans (List.dropWhile_sublist isBlank)

theorem strip_append_left (h : AllBlank s) : strip (s ++ t) = strip t := by
  rw [strip, strip, stripStart_append_of_allBlank h]

theorem strip_stripStart (t : Text) : strip (stripStart t) = strip t := by
  obtain ⟨p, hp, ht⟩ := exists_blank_append_stripStart t
  conv_rhs => rw [ht]
  exact (strip_append_left hp).symm

theorem strip_append_right (h : AllBlank t) : strip (s ++ t) = strip s := by
  obtain ⟨p, hp, hs⟩ := exists_blank_append_stripStart s
  cases hrest : stripStart s with
  | nil =>
      rw [hrest, List.append_nil] at hs
      have hall : AllBlank (s ++ t) := allBlank_append.mpr ⟨hs ▸ hp, h⟩
      rw [strip, strip, stripStart_eq_nil_iff.mpr hall, hrest]
  | cons c u =>
      have hc : isBlank c = false := isBlank_of_stripStart_eq_cons hrest
      have hst : stripStart (s ++ t) = c :: u ++ t := by
        conv_lhs => rw [hs, hrest, List.append_assoc, stripStart_append_of_allBlank hp]
        exact stripStart_cons_of_not_blank hc
      rw [strip, strip, hst, hrest, stripEnd_append_of_allBlank h]

theorem strip_cons_of_not_blank (h : isBlank c = false) : strip (c :: t) = c :: stripEnd t := by
  rw [strip, stripStart_cons_of_not_blank h, stripEnd_cons_of_not_blank h]

theorem strip_eq_nil_iff : strip t = [] ↔ AllBlank t := by
  obtain ⟨p, hp, ht⟩ := exists_blank_append_stripStart t
  rw [strip, stripEnd_eq_nil_iff]
  constructor
  · intro h
    rw [ht]
    exact allBlank_append.mpr ⟨hp, h⟩
  · intro h
    rw [stripStart_eq_nil_iff.mpr h]
    exact fun c hc => absurd hc List.not_mem_nil

/-- Behind its blank start, a text without its blank end is the stripped text. -/
theorem exists_blank_append_strip (t : Text) : ∃ p, AllBlank p ∧ stripEnd t = p ++ strip t := by
  obtain ⟨p, hp, ht⟩ := exists_blank_append_stripStart t
  by_cases h : AllBlank (stripStart t)
  · have hall : AllBlank t := by
      rw [ht]
      exact allBlank_append.mpr ⟨hp, h⟩
    exact ⟨[], by simp [AllBlank], by
      rw [stripEnd_eq_nil_iff.mpr hall, strip_eq_nil_iff.mpr hall]; rfl⟩
  · refine ⟨p, hp, ?_⟩
    conv_lhs => rw [ht]
    exact stripEnd_append_of_not_allBlank h

/-- A text is the stripped text between blank ends. -/
theorem exists_blank_strip_blank (t : Text) :
    ∃ p q, AllBlank p ∧ AllBlank q ∧ t = p ++ strip t ++ q := by
  obtain ⟨p, hp, hend⟩ := exists_blank_append_strip t
  refine ⟨p, t.rtakeWhile isBlank, hp, fun _ hc => List.mem_rtakeWhile_imp hc, ?_⟩
  rw [← hend]
  exact (List.rdropWhile_append_rtakeWhile).symm

theorem strip_strip (t : Text) : strip (strip t) = strip t := by
  obtain ⟨p, q, hp, hq, ht⟩ := exists_blank_strip_blank t
  calc strip (strip t)
      = strip (p ++ strip t) := (strip_append_left hp).symm
    _ = strip (p ++ strip t ++ q) := (strip_append_right hq).symm
    _ = strip t := by rw [← ht]

/-- A text has no blank space at its ends just if neither its first nor its last character is
blank. -/
theorem strip_eq_self_iff :
    strip t = t ↔ (∀ c ∈ t.head?, isBlank c = false) ∧ ∀ c ∈ t.getLast?, isBlank c = false := by
  cases t with
  | nil => simp [strip, stripStart, stripEnd, dropEndWhile]
  | cons c t =>
      have hlast : stripEnd (c :: t) = c :: t
          ↔ ∀ d ∈ (c :: t).getLast?, isBlank d = false := by
        rw [stripEnd_eq_rdropWhile, List.rdropWhile_eq_self_iff]
        simp [List.getLast?_eq_some_getLast]
      constructor
      · intro h
        have hc : isBlank c = false := by
          by_contra hc
          have hshort : (strip (c :: t)).length ≤ t.length := by
            rw [strip, stripStart, List.dropWhile_cons_of_pos (by simpa using hc)]
            exact (List.rdropWhile_prefix isBlank _).length_le.trans
              (List.dropWhile_sublist isBlank).length_le
          rw [h, List.length_cons] at hshort
          omega
        refine ⟨by simpa using hc, hlast.mp ?_⟩
        rw [strip, stripStart_cons_of_not_blank hc] at h
        exact h
      · rintro ⟨hhead, hlast'⟩
        rw [strip, stripStart_cons_of_not_blank (by simpa using hhead)]
        exact hlast.mpr hlast'

/-- A text without blank space at its end does not end in a blank text. -/
theorem eq_nil_of_strip_append (hstrip : strip (s ++ t) = s ++ t) (ht : AllBlank t) : t = [] := by
  cases hlast : t.getLast? with
  | none => exact List.getLast?_eq_none_iff.mp hlast
  | some c =>
      have hne : t ≠ [] := by
        rintro rfl
        cases hlast
      have hend : (s ++ t).getLast? = some c := by
        rw [List.getLast?_append_of_ne_nil s hne, hlast]
      have hc : isBlank c = false := (strip_eq_self_iff.mp hstrip).2 c hend
      exact absurd (ht c (List.mem_of_getLast? hlast)) (by simp [hc])

end TestSkeleton.Text
