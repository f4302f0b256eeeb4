import TestSkeleton.Proofs.Text.Strip

set_option autoImplicit false

/-! # Words and cuts

Where a text is cut at a character (`cut?_eq_some_iff`, `cutLast?_eq_some_iff`), and what its first
word is: the word between the blank space in front and the next blank space or the end
(`firstWord_append`, `exists_firstWord`). Only blank texts have none (`firstWord_eq_nil_iff`).
-/

namespace TestSkeleton.Text

/-! ## Cuts -/

theorem cut?_append {sep : Char} {a : Text} (h : sep ∉ a) (b : Text) :
    cut? sep (a ++ sep :: b) = some (a, b) := by
  induction a with
  | nil => simp [cut?]
  | cons c a ih =>
      obtain ⟨hc, ha⟩ : sep ≠ c ∧ sep ∉ a := by simpa using h
      rw [List.cons_append, cut?, if_neg (by simpa using hc.symm), ih ha]
      rfl

/-- A text is cut at the first of the characters. -/
theorem cut?_eq_some_iff {sep : Char} {t a b : Text} :
    cut? sep t = some (a, b) ↔ t = a ++ sep :: b ∧ sep ∉ a := by
  constructor
  · intro h
    induction t generalizing a with
    | nil => cases h
    | cons c t ih =>
        rw [cut?] at h
        split at h
        next hc =>
          obtain rfl : c = sep := by simpa using hc
          cases h
          exact ⟨rfl, List.not_mem_nil⟩
        next hc =>
          obtain ⟨⟨x, y⟩, hxy, hab⟩ := Option.map_eq_some_iff.mp h
          cases hab
          obtain ⟨rfl, hx⟩ := ih hxy
          have hne : c ≠ sep := by simpa using hc
          exact ⟨rfl, by simp [hne.symm, hx]⟩
  · rintro ⟨rfl, ha⟩
    exact cut?_append ha b

theorem cut?_eq_none_iff {sep : Char} {t : Text} : cut? sep t = none ↔ sep ∉ t := by
  constructor
  · intro h hmem
    obtain ⟨a, b, rfl, ha⟩ := List.eq_append_cons_of_mem hmem
    rw [cut?_append ha] at h
    cases h
  · intro h
    cases hcut : cut? sep t with
    | none => rfl
    | some r =>
        obtain ⟨rfl, -⟩ := cut?_eq_some_iff.mp hcut
        exact absurd (by simp) h

/-- A text is cut at the last of the characters. -/
theorem cutLast?_eq_some_iff {sep : Char} {t a b : Text} :
    cutLast? sep t = some (a, b) ↔ t = a ++ sep :: b ∧ sep ∉ b := by
  simp only [cutLast?, Option.map_eq_some_iff, Prod.mk.injEq]
  constructor
  · rintro ⟨⟨x, y⟩, hcut, rfl, rfl⟩
    obtain ⟨hreverse, hx⟩ := cut?_eq_some_iff.mp hcut
    have ht : t = (x ++ sep :: y).reverse := by rw [← hreverse, List.reverse_reverse]
    exact ⟨by simpa using ht, by simpa using hx⟩
  · rintro ⟨rfl, hb⟩
    refine ⟨(b.reverse, a.reverse), ?_, List.reverse_reverse a, List.reverse_reverse b⟩
    rw [List.reverse_append, List.reverse_cons, List.append_assoc, List.singleton_append]
    exact cut?_append (by simpa using hb) _

/-! ## The first word -/

/-- The text is a word: not empty, and without blank space. -/
def IsWord (w : Text) : Prop := w ≠ [] ∧ ∀ c ∈ w, isBlank c = false

instance (w : Text) : Decidable (IsWord w) :=
  have := List.decidableBAll (fun c => isBlank c = false) w
  instDecidableAnd

theorem stripStart_of_isWord {w : Text} (h : IsWord w) (t : Text) :
    stripStart (w ++ t) = w ++ t := by
  cases w with
  | nil => exact absurd rfl h.1
  | cons c w => exact stripStart_cons_of_not_blank (h.2 c List.mem_cons_self)

/-- At the end of a word no further character belongs to it. -/
theorem takeWhile_eq_nil_of_atWordEnd {t : Text} (h : atWordEnd t = true) :
    t.takeWhile (!isBlank ·) = [] ∧ t.dropWhile (!isBlank ·) = t := by
  cases t with
  | nil => exact ⟨rfl, rfl⟩
  | cons c t =>
      have hc : isBlank c = true := h
      exact ⟨List.takeWhile_cons_of_neg (by simp [hc]), List.dropWhile_cons_of_neg (by simp [hc])⟩

theorem firstWord_append {gap w rest : Text} (hgap : AllBlank gap) (hw : IsWord w)
    (hrest : atWordEnd rest = true) : firstWord (gap ++ (w ++ rest)) = (w, stripStart rest) := by
  obtain ⟨htake, hdrop⟩ := takeWhile_eq_nil_of_atWordEnd hrest
  have hword : ∀ c ∈ w, (!isBlank c) = true := fun c hc => by simp [hw.2 c hc]
  rw [firstWord, stripStart_append_of_allBlank hgap, stripStart_of_isWord hw,
    List.takeWhile_append_of_pos hword, List.dropWhile_append_of_pos hword, htake, hdrop,
    List.append_nil]

/-- A text has a first word just if it is not blank. -/
theorem firstWord_eq_nil_iff {t : Text} : (firstWord t).1 = [] ↔ AllBlank t := by
  rw [firstWord, ← stripStart_eq_nil_iff]
  cases ht : stripStart t with
  | nil => simp
  | cons c u =>
      have hc : isBlank c = false := isBlank_of_stripStart_eq_cons ht
      simp [hc]

/-- What a text without blank space at its end ends in has a word. -/
theorem firstWord_ne_nil_of_strip_eq {t s rest : Text} (h : strip t = s ++ rest)
    (hne : rest ≠ []) : (firstWord rest).1 ≠ [] := by
  intro hnil
  have hstrip : strip (s ++ rest) = s ++ rest := by rw [← h, strip_strip]
  exact hne (eq_nil_of_strip_append hstrip (firstWord_eq_nil_iff.mp hnil))

/-- Every text starts with blank space and its first word, if it has one. -/
theorem exists_firstWord (t : Text) :
    ∃ gap rest, AllBlank gap ∧ t = gap ++ ((firstWord t).1 ++ rest)
      ∧ (∀ c ∈ (firstWord t).1, isBlank c = false) ∧ atWordEnd rest = true
      ∧ (firstWord t).2 = stripStart rest := by
  obtain ⟨gap, hgap, ht⟩ := exists_blank_append_stripStart t
  refine ⟨gap, (stripStart t).dropWhile (!isBlank ·), hgap, ?_, fun c hc => ?_, ?_, rfl⟩
  · conv_lhs => rw [ht]
    rw [firstWord, List.takeWhile_append_dropWhile]
  · simpa using List.mem_takeWhile_imp hc
  · cases hrest : (stripStart t).dropWhile (!isBlank ·) with
    | nil => rfl
    | cons c u =>
        have hhead := List.head?_dropWhile_not (!isBlank ·) (stripStart t)
        rw [hrest] at hhead
        simpa [atWordEnd] using hhead

end TestSkeleton.Text
