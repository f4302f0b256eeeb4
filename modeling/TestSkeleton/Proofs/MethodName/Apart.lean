import TestSkeleton.Proofs.MethodName.Numbering

set_option autoImplicit false

/-! # Names that stay apart

Two capitalized names are apart if no candidate for one is a candidate for the other. That is so
unless one of them is the other one with a positive number behind it (`areApart_iff`): `Add` and
`Add0` are apart, but `Add` and `Add1` are not, since `Add12` is a candidate for both. As long as a
namer gives out names that are apart from a name, it does not pass over any candidate for this name:
those up to the remembered number are taken, and no others (`CountsExactly`).
-/

namespace TestSkeleton

/-! ## Candidates -/

/-- The names that a test for a capitalized name can have: the name itself, or the name with a
number from two on. -/
inductive IsCandidate (base : Text) : Text → Prop where
  | bare : IsCandidate base base
  | numbered {i : Nat} (h : 2 ≤ i) : IsCandidate base (base ++ Text.ofNat i)

/-- No candidate for one of the names is a candidate for the other. -/
def AreApart (base base' : Text) : Prop := ∀ t, IsCandidate base t → ¬ IsCandidate base' t

/-- A name is another one with a positive number behind it. -/
def IsNumbered (base base' : Text) : Prop := ∃ n, 1 ≤ n ∧ base' = base ++ Text.ofNat n

section Candidates

variable {base base' s t u : Text} {k l n : Nat}

theorem isCandidate_nameCandidate (base : Text) (k : Nat) :
    IsCandidate base (nameCandidate base k) := by
  by_cases hk : 1 < k
  · rw [nameCandidate_of_lt base hk]
    exact .numbered hk
  · rw [nameCandidate, if_pos (Nat.le_of_not_lt hk)]
    exact .bare

/-- A candidate is the name with nothing or a number behind it. -/
theorem IsCandidate.exists_append (h : IsCandidate base t) :
    ∃ u, t = base ++ u ∧ (u = [] ∨ ∃ i, 1 ≤ i ∧ u = Text.ofNat i) := by
  cases h with
  | bare => exact ⟨[], (List.append_nil base).symm, .inl rfl⟩
  | @numbered i h => exact ⟨_, rfl, .inr ⟨i, by omega, rfl⟩⟩

/-! ## Numbers behind names -/

/-- Digits at the start of a positive number are a positive number. -/
theorem Text.exists_ofNat_of_append (hn : 1 ≤ n) (h : Text.ofNat n = s ++ u) (hs : s ≠ []) :
    ∃ k, 1 ≤ k ∧ s = Text.ofNat k := by
  -- on the number: what is in front of its last digit is its tenth
  induction n using Nat.strongRecOn generalizing u with
  | ind n ih =>
      rcases List.eq_nil_or_concat' u with rfl | ⟨v, d, rfl⟩
      · exact ⟨n, hn, by rw [h, List.append_nil]⟩
      · by_cases hdigit : n < 10
        · rw [Text.ofNat, Nat.toDigits_of_lt_base hdigit] at h
          have hlength := congrArg List.length h
          have hpos : 0 < s.length := List.length_pos_iff.mpr hs
          simp only [List.length_append, List.length_singleton] at hlength
          omega
        · have htenth : Text.ofNat n = Text.ofNat (n / 10) ++ [Nat.digitChar (n % 10)] :=
            Nat.toDigits_of_base_le (by decide) (Nat.le_of_not_lt hdigit)
          rw [htenth, ← List.append_assoc] at h
          have hfront : Text.ofNat (n / 10) = s ++ v := (List.append_inj' h rfl).1
          exact ih (n / 10) (by omega) (by omega) hfront

/-- The longer one of two names with a common candidate is the shorter one with a number. -/
theorem isNumbered_of_common (h : IsCandidate base t) (h' : IsCandidate base' t)
    (hne : base ≠ base') (hle : base.length ≤ base'.length) : IsNumbered base base' := by
  obtain ⟨u, rfl, hu⟩ := h.exists_append
  obtain ⟨v, heq, -⟩ := h'.exists_append
  have hstart : base <+: base' :=
    List.prefix_of_prefix_length_le (List.prefix_append base u) ⟨v, heq.symm⟩ hle
  obtain ⟨s, rfl⟩ := hstart
  have hs : s ≠ [] := by
    rintro rfl
    exact hne (List.append_nil base).symm
  rw [List.append_assoc] at heq
  have hnumber : u = s ++ v := List.append_cancel_left heq
  rcases hu with rfl | ⟨i, hi, rfl⟩
  · exact absurd (List.append_eq_nil_iff.mp hnumber.symm).1 hs
  · obtain ⟨k, hk, hsk⟩ := Text.exists_ofNat_of_append hi hnumber hs
    exact ⟨k, hk, by rw [hsk]⟩

/-- A name and the name with a number have a common candidate: with one behind it that is the name
with twelve, and else the second name itself. -/
theorem IsNumbered.exists_common (h : IsNumbered base base') :
    ∃ t, IsCandidate base t ∧ IsCandidate base' t := by
  obtain ⟨n, hn, rfl⟩ := h
  by_cases hone : n = 1
  · have htwelve : base ++ Text.ofNat 12 = base ++ Text.ofNat n ++ Text.ofNat 2 := by
      rw [hone, List.append_assoc]
      rfl
    refine ⟨base ++ Text.ofNat 12, .numbered (by decide), ?_⟩
    rw [htwelve]
    exact .numbered (by decide)
  · exact ⟨base ++ Text.ofNat n, .numbered (by omega), .bare⟩

theorem AreApart.symm (h : AreApart base base') : AreApart base' base :=
  fun t ht ht' => h t ht' ht

/-- **Names are apart** unless one is the other one with a positive number behind it. -/
theorem areApart_iff :
    AreApart base base' ↔ base ≠ base' ∧ ¬ IsNumbered base base' ∧ ¬ IsNumbered base' base := by
  constructor
  · intro h
    refine ⟨?_, ?_, ?_⟩
    · rintro rfl
      exact h base .bare .bare
    · intro hnumbered
      obtain ⟨t, ht, ht'⟩ := hnumbered.exists_common
      exact h t ht ht'
    · intro hnumbered
      obtain ⟨t, ht, ht'⟩ := hnumbered.exists_common
      exact h t ht' ht
  · rintro ⟨hne, hnumbered, hnumbered'⟩ t ht ht'
    rcases Nat.le_total base.length base'.length with hle | hle
    · exact hnumbered (isNumbered_of_common ht ht' hne hle)
    · exact hnumbered' (isNumbered_of_common ht' ht hne.symm hle)

instance (base base' : Text) : Decidable (IsNumbered base base') :=
  let n := Nat.ofDigitChars 10 (base'.drop base.length) 0
  decidable_of_iff (1 ≤ n ∧ base' = base ++ Text.ofNat n) <| by
    refine ⟨fun h => ⟨n, h⟩, ?_⟩
    rintro ⟨k, hk, rfl⟩
    have hn : n = k := by simp [n, Text.ofNat]
    rw [hn]
    exact ⟨hk, rfl⟩

instance (base base' : Text) : Decidable (AreApart base base') :=
  decidable_of_iff _ areApart_iff.symm

/-- A digit that starts no number leaves a name apart. -/
example : AreApart "Add" "Add0" ∧ ¬ AreApart "Add" "Add1" ∧ ¬ AreApart "" "2" := by decide

end Candidates

/-! ## A namer among names that are apart -/

namespace MethodNamer

/-- Of the candidates for a name just those up to the remembered number are taken. -/
def CountsExactly (n : MethodNamer) (base : Text) : Prop :=
  ∀ k, 1 ≤ k → (nameCandidate base k ∈ n.used ↔ k ≤ n.count base)

section CountsExactly

variable {n : MethodNamer} {m base : Text}

theorem countsExactly_empty (base : Text) : empty.CountsExactly base := by
  intro k hk
  have hcount : empty.count base = 0 := rfl
  have hused : nameCandidate base k ∉ empty.used := List.not_mem_nil
  exact iff_of_false hused (by omega)

/-- The next candidate is free, and the search looks no further. -/
theorem CountsExactly.number_eq (h : n.CountsExactly (Text.capitalizeFirst m)) :
    n.number m = n.count (Text.capitalizeFirst m) + 1 := by
  have hfree : nameCandidate (Text.capitalizeFirst m) (n.count (Text.capitalizeFirst m) + 1)
      ∉ n.used := by
    rw [h _ (Nat.le_add_left 1 _)]
    omega
  unfold number
  cases n.used.length with
  | zero => rfl
  | succ fuel => rw [search, if_neg hfree]

theorem CountsExactly.name_fst_eq (h : n.CountsExactly (Text.capitalizeFirst m)) :
    (n.name m).1
      = nameCandidate (Text.capitalizeFirst m) (n.count (Text.capitalizeFirst m) + 1) := by
  rw [name_fst, h.number_eq]

theorem CountsExactly.count_name_eq (h : n.CountsExactly (Text.capitalizeFirst m)) :
    (n.name m).2.count (Text.capitalizeFirst m) = n.count (Text.capitalizeFirst m) + 1 := by
  rw [count_name, if_pos rfl, h.number_eq]

/-- **A name that is given out keeps the count of another one exact** if the two are apart, and its
own count anyway. -/
theorem CountsExactly.name (h : n.CountsExactly base)
    (hm : Text.capitalizeFirst m = base ∨ AreApart base (Text.capitalizeFirst m)) :
    (n.name m).2.CountsExactly base := by
  intro k hk
  rw [used_name, List.mem_cons, h k hk, name_fst, count_name]
  rcases hm with rfl | hapart
  · have hsame : nameCandidate (Text.capitalizeFirst m) k
        = nameCandidate (Text.capitalizeFirst m) (n.number m) ↔ k = n.number m :=
      ⟨nameCandidate_injective hk (Nat.lt_of_le_of_lt (Nat.zero_le _) (lt_search _ _ _ _)),
        congrArg _⟩
    rw [hsame, if_pos rfl, h.number_eq]
    omega
  · -- the name that is given out is no candidate for `base`
    have hother : nameCandidate base k
        ≠ nameCandidate (Text.capitalizeFirst m) (n.number m) := fun heq =>
      hapart _ (isCandidate_nameCandidate base k)
        (heq ▸ isCandidate_nameCandidate (Text.capitalizeFirst m) (n.number m))
    have hne : base ≠ Text.capitalizeFirst m := (areApart_iff.mp hapart).1
    rw [if_neg hne, or_iff_right hother]

end CountsExactly

end MethodNamer

end TestSkeleton
