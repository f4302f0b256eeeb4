import TestSkeleton.Text.Basic

set_option autoImplicit false

/-! # Prefixes, suffixes and joined texts

`dropPrefix?`, `dropSuffix?` and `joinWith` in terms of concatenation.
-/

namespace TestSkeleton.Text

theorem dropPrefix?_append (s t : Text) : dropPrefix? s (s ++ t) = some t := by
  induction s with
  | nil => rfl
  | cons c s ih => simpa [dropPrefix?] using ih

theorem dropPrefix?_eq_some_iff {s t u : Text} : dropPrefix? s t = some u ↔ t = s ++ u := by
  constructor
  · intro h
    induction s generalizing t with
    | nil => simpa [dropPrefix?] using h
    | cons c s ih =>
        cases t with
        | nil => simp [dropPrefix?] at h
        | cons d t =>
            rw [dropPrefix?] at h
            split at h
            next hcd => rw [ih h, beq_iff_eq.mp hcd]; rfl
            next => cases h
  · rintro rfl
    exact dropPrefix?_append s u

/-- A prefix ends in front of a character that it does not hold. -/
theorem dropPrefix?_append_cons {c : Char} {w : Text} (h : c ∉ w) (s t : Text) :
    dropPrefix? w (s ++ c :: t) = (dropPrefix? w s).map (· ++ c :: t) := by
  induction w generalizing s with
  | nil => rfl
  | cons d w ih =>
      obtain ⟨hd, hw⟩ : c ≠ d ∧ c ∉ w := by simpa using h
      cases s with
      | nil => exact if_neg (by simpa using hd.symm)
      | cons e s =>
          rw [List.cons_append, dropPrefix?, dropPrefix?]
          split
          next => exact ih hw s
          next => rfl

theorem dropSuffix?_eq_some_iff {s t u : Text} : dropSuffix? s t = some u ↔ t = u ++ s := by
  simp only [dropSuffix?, Option.map_eq_some_iff, dropPrefix?_eq_some_iff]
  constructor
  · rintro ⟨v, hv, rfl⟩
    rw [← List.reverse_inj, hv, List.reverse_append, List.reverse_reverse]
  · rintro rfl
    exact ⟨u.reverse, by rw [List.reverse_append], List.reverse_reverse u⟩

theorem dropPrefix?_of_startsWith_eq_false {s t : Text} (h : startsWith s t = false) :
    dropPrefix? s t = none := by
  simpa [startsWith] using h

theorem dropSuffix?_of_endsWith_eq_false {s t : Text} (h : endsWith s t = false) :
    dropSuffix? s t = none := by
  simpa [endsWith] using h

theorem joinWith_singleton (sep p : Text) : joinWith sep [p] = p := List.intercalate_singleton

theorem joinWith_cons_cons (sep p p' : Text) (ps : List Text) :
    joinWith sep (p :: p' :: ps) = p ++ sep ++ joinWith sep (p' :: ps) :=
  List.intercalate_cons_cons

end TestSkeleton.Text
