import TestSkeleton.Assertion.Template
import TestSkeleton.Proofs.Result
import TestSkeleton.Proofs.Text.Word

set_option autoImplicit false

/-! # Operators and their kinds

The operators of test expressions are the words of one table (`ofOperator?_eq_some_iff`), and two
pairs of them are opposite to each other (`oppositeOperators`). The word `false` turns the kind of
such an operator into the opposite one, and nothing else changes a kind or its expected value
(`normalize_cases`). A kind and its opposite are rendered from the same template
(`select_normalize`).
-/

namespace TestSkeleton

open Text

namespace AssertionKind

/-! ## The table of operators -/

theorem mem_operators_of_ofOperator? {operator : Text} {k : AssertionKind}
    (h : ofOperator? operator = some k) : (operator, k) ∈ operators :=
  mem_of_lookup_eq_some h

/-- The operators are words. -/
theorem isWord_of_ofOperator? {operator : Text} {k : AssertionKind}
    (h : ofOperator? operator = some k) : IsWord operator := by
  have hall : ∀ o ∈ operators, IsWord o.1 := by decide
  exact hall _ (mem_operators_of_ofOperator? h)

/-- No operator stands for two kinds. -/
theorem nodup_operators : (operators.map Prod.fst).Nodup := by decide

theorem ofOperator?_eq_some_iff {operator : Text} {k : AssertionKind} :
    ofOperator? operator = some k ↔ (operator, k) ∈ operators :=
  lookup_eq_some_iff_mem nodup_operators

theorem ofOperator?_eq_none_iff {operator : Text} :
    ofOperator? operator = none ↔ operator ∉ operators.map Prod.fst := by
  rw [Option.eq_none_iff_forall_ne_some]
  constructor
  · intro hnone hmem
    obtain ⟨⟨o, k⟩, hk, rfl⟩ := List.mem_map.mp hmem
    exact hnone k (ofOperator?_eq_some_iff.mpr hk)
  · intro hmem k hk
    exact hmem (List.mem_map_of_mem (ofOperator?_eq_some_iff.mp hk))

/-! ## Opposite kinds -/

/-- A kind that does not look at the actual value alone keeps its expected value. -/
theorem normalize_of_isUnary_eq_false {k : AssertionKind} (h : k.isUnary = false)
    (expected : Text) : k.normalize expected = (k, expected) := by
  have hnone : k.opposite? = none := by simpa [isUnary] using h
  rw [normalize, hnone]

/-- The word `false` behind a kind that looks at the actual value alone makes the opposite kind of
it. -/
theorem normalize_of_spellsFalse {k k' : AssertionKind} (hk : k.opposite? = some k')
    {expected : Text} (hfalse : spellsFalse expected = true) : k.normalize expected = (k', []) := by
  rw [normalize, hk]
  simp only [hfalse, if_true]

theorem normalize_of_spellsFalse_eq_false {expected : Text} (h : spellsFalse expected = false)
    (k : AssertionKind) : k.normalize expected = (k, expected) := by
  unfold normalize
  cases k.opposite? with
  | none => rfl
  | some k' => simp only [h, Bool.false_eq_true, if_false]

/-- A kind is turned into its opposite, without an expected value, by the word `false` alone; all
else stays as it is. -/
theorem normalize_cases (k : AssertionKind) (expected : Text) :
    (k.normalize expected = (k, expected) ∧ ¬ (k.isUnary = true ∧ spellsFalse expected = true))
      ∨ ∃ k', k.opposite? = some k' ∧ spellsFalse expected = true
          ∧ k.normalize expected = (k', []) := by
  by_cases hfalse : spellsFalse expected = true
  · cases hopposite : k.opposite? with
    | none =>
        have hunary : k.isUnary = false := by simp [isUnary, hopposite]
        exact Or.inl ⟨normalize_of_isUnary_eq_false hunary expected, by simp [hunary]⟩
    | some k' => exact Or.inr ⟨k', rfl, hfalse, normalize_of_spellsFalse hopposite hfalse⟩
  · have hfalse : spellsFalse expected = false := by simpa using hfalse
    exact Or.inl ⟨normalize_of_spellsFalse_eq_false hfalse k, by simp [hfalse]⟩

/-- The operators that have an opposite, with it. -/
def oppositeOperators : List (Text × Text) := [
  ("empty", "!empty"),
  ("!empty", "empty"),
  ("file-exists", "!file-exists"),
  ("!file-exists", "file-exists")]

/-- Opposite operators stand for opposite kinds. -/
theorem exists_opposite_of_mem {p : Text × Text} (h : p ∈ oppositeOperators) :
    ∃ k k', ofOperator? p.1 = some k ∧ ofOperator? p.2 = some k' ∧ k.opposite? = some k' := by
  simp only [oppositeOperators, List.mem_cons, List.not_mem_nil, or_false] at h
  rcases h with rfl | rfl | rfl | rfl
  · exact ⟨empty, notEmpty, by decide, by decide, rfl⟩
  · exact ⟨notEmpty, empty, by decide, by decide, rfl⟩
  · exact ⟨fileExists, fileNotExists, by decide, by decide, rfl⟩
  · exact ⟨fileNotExists, fileExists, by decide, by decide, rfl⟩

end AssertionKind

/-! ## Templates -/

namespace TemplateKind

/-- A kind is rendered from the same template as its opposite. -/
theorem select_of_opposite? {k k' : AssertionKind} (h : k.opposite? = some k') (onClass : Bool) :
    select k' onClass = select k onClass := by
  cases k <;> cases h <;> cases onClass <;> rfl

/-- **The template does not depend on the word `false`**: it may be chosen before a kind is turned
into its opposite. -/
theorem select_normalize (k : AssertionKind) (expected : Text) (onClass : Bool) :
    select (k.normalize expected).1 onClass = select k onClass := by
  rcases k.normalize_cases expected with ⟨heq, -⟩ | ⟨k', hopposite, -, heq⟩
  · rw [heq]
  · rw [heq]
    exact select_of_opposite? hopposite onClass

end TemplateKind

end TestSkeleton
