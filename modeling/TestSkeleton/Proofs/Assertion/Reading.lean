import TestSkeleton.Proofs.Assertion.Kind
import TestSkeleton.Proofs.Assertion.Printing
import TestSkeleton.Proofs.Text.Case

set_option autoImplicit false

/-! # From tags to assertions

A tag asks for an assertion just if its expression can be read and its operator is in the table. The
template is that of the kind in the end, and the expected value is the one that is written, unless
the word `false` turned the kind into its opposite. So an expression with that word asks for the
same as the expression with the opposite operator in its place. `assertion_of_tag` puts this
together.
-/

namespace TestSkeleton

open Annotation Text AssertionKind

namespace AssertionKind

/-- What spells the word `false` is one word. -/
theorem isWord_of_spellsFalse {t : Text} (h : spellsFalse t = true) : IsWord t := by
  have hupper : upper t = "FALSE".toList := by simpa [spellsFalse] using h
  constructor
  · rintro rfl
    cases hupper
  · intro c hc
    by_contra hblank
    have hmem : c ∈ "FALSE".toList := by
      rw [← hupper]
      exact mem_upper_of_isBlank (by simpa using hblank) hc
    have hword : IsWord "FALSE".toList := by decide
    exact hblank (hword.2 c hmem)

end AssertionKind

namespace Assertion

/-! ## What a printed expression asks for -/

/-- An expression that is printed from an operator and a trimmed expected value asks for the
operator's kind. -/
theorem ofTag_print {e : TestExpression} {k : AssertionKind} (hclosed : ')' ∉ e.arguments)
    (hknown : ofOperator? e.operator = some k) (hexpected : strip e.expected = e.expected)
    {tag : Tag} (htag : tag.expression = e.print) (onClass : Bool) :
    ofTag tag onClass = .ok ⟨(k.normalize e.expected).1, strip e.arguments,
      (k.normalize e.expected).2, TemplateKind.select k onClass, onClass⟩ := by
  have hparts := TestExpression.hasParts_print hclosed (isWord_of_ofOperator? hknown) hexpected
  have hread : TestExpression.read? tag.expression
      = .ok ⟨strip e.arguments, e.operator, e.expected⟩ := by
    rw [htag]
    exact TestExpression.read?_of_hasParts hparts
  exact ofTag_eq_ok_iff.mpr ⟨_, k, parse_eq_ok_iff.mpr hread, kindOf_eq_ok_iff.mpr hknown, rfl⟩

/-- **The word `false` stands for the opposite operator.** -/
theorem ofTag_opposite {p : Text × Text} (hp : p ∈ oppositeOperators) {arguments word : Text}
    (hclosed : ')' ∉ arguments) (hfalse : spellsFalse word = true) {tag tag' : Tag}
    (htag : tag.expression = TestExpression.print ⟨arguments, p.1, word⟩)
    (htag' : tag'.expression = TestExpression.print ⟨arguments, p.2, []⟩) (onClass : Bool) :
    ∃ a, ofTag tag onClass = .ok a ∧ ofTag tag' onClass = .ok a := by
  obtain ⟨k, k', hk, hk', hopposite⟩ := exists_opposite_of_mem hp
  have hword := isWord_of_spellsFalse hfalse
  have hstrip : strip word = word := by
    refine strip_eq_self_iff.mpr ⟨fun c hc => ?_, fun c hc => ?_⟩
    · exact hword.2 c (List.mem_of_head? hc)
    · exact hword.2 c (List.mem_of_getLast? hc)
  have hflipped := ofTag_print hclosed hk hstrip htag onClass
  have hplain := ofTag_print hclosed hk' rfl htag' onClass
  have hempty : spellsFalse [] = false := by decide
  rw [normalize_of_spellsFalse hopposite hfalse] at hflipped
  rw [normalize_of_spellsFalse_eq_false hempty,
    TemplateKind.select_of_opposite? hopposite] at hplain
  exact ⟨_, hflipped, hplain⟩

/-! ## Assertions of tags -/

section Tags

variable {tag : Tag} {onClass : Bool}

/-- A tag asks for an assertion just if its expression can be read and its operator is in the
table. -/
theorem exists_ofTag_iff :
    (∃ a, ofTag tag onClass = .ok a)
      ↔ ∃ e, parse tag.expression tag.raw = .ok e ∧ e.operator ∈ operators.map Prod.fst := by
  constructor
  · rintro ⟨a, ha⟩
    obtain ⟨e, k, hparse, hkind, -⟩ := ofTag_eq_ok_iff.mp ha
    have hmem := ofOperator?_eq_some_iff.mp (kindOf_eq_ok_iff.mp hkind)
    exact ⟨e, hparse, List.mem_map_of_mem hmem⟩
  · rintro ⟨e, hparse, hmem⟩
    obtain ⟨⟨operator, k⟩, hk, hoperator⟩ := List.mem_map.mp hmem
    have hoperator : operator = e.operator := hoperator
    have hkind : kindOf e.operator tag.raw = .ok k := by
      rw [kindOf_eq_ok_iff, ofOperator?_eq_some_iff, ← hoperator]
      exact hk
    exact ⟨_, ofTag_eq_ok_iff.mpr ⟨e, k, hparse, hkind, rfl⟩⟩

/-- **The parts of an assertion** are those of the expression. The template is that of the kind and
of the operator alike, and only the word `false` changes the kind and drops the expected value. -/
theorem parts_of_ofTag {a : Assertion} (h : ofTag tag onClass = .ok a) :
    ∃ e k, parse tag.expression tag.raw = .ok e ∧ (e.operator, k) ∈ operators
      ∧ a.arguments = e.arguments ∧ a.isStatic = onClass
      ∧ a.template = TemplateKind.select a.kind onClass
      ∧ a.template = TemplateKind.select k onClass
      ∧ ((a.kind = k ∧ a.expected = e.expected
            ∧ ¬ (k.isUnary = true ∧ upper e.expected = "FALSE".toList))
          ∨ (k.opposite? = some a.kind ∧ a.expected = []
            ∧ upper e.expected = "FALSE".toList)) := by
  obtain ⟨e, k, hparse, hkind, rfl⟩ := ofTag_eq_ok_iff.mp h
  have hmem := ofOperator?_eq_some_iff.mp (kindOf_eq_ok_iff.mp hkind)
  have htemplate := TemplateKind.select_normalize k e.expected onClass
  have hupper : spellsFalse e.expected = true ↔ upper e.expected = "FALSE".toList := by
    simp [spellsFalse]
  refine ⟨e, k, hparse, hmem, rfl, rfl, htemplate.symm, rfl, ?_⟩
  rcases k.normalize_cases e.expected with ⟨heq, hkept⟩ | ⟨k', hopposite, hfalse, heq⟩
  · rw [hupper] at hkept
    exact Or.inl ⟨by rw [heq], by rw [heq], hkept⟩
  · exact Or.inr ⟨by rw [heq]; exact hopposite, by rw [heq], hupper.mp hfalse⟩

end Tags

/-- **What a tag asks for.** A tag asks for an assertion just if its expression can be read and its
operator is one of the 29 in the table. An operator that is none of them is shown in the error, with
the text of the tag. The template is that of the kind of the assertion, which is also that of its
operator; and the expected value is the one that is written, but for a kind that the word `false`
turned into its opposite, which has none. Whatever the arguments, an operator with an opposite in
front of the word `false`, in any case, asks for the same as the opposite operator alone. -/
theorem assertion_of_tag (tag : Tag) (onClass : Bool) :
    ((∃ a, ofTag tag onClass = .ok a)
        ↔ ∃ e, parse tag.expression tag.raw = .ok e ∧ e.operator ∈ operators.map Prod.fst)
      ∧ operators.length = 29 ∧ (operators.map Prod.fst).Nodup
      ∧ (∀ e, parse tag.expression tag.raw = .ok e → e.operator ∉ operators.map Prod.fst →
        ofTag tag onClass = .error (.unknownOperator e.operator tag.raw))
      ∧ (∀ a, ofTag tag onClass = .ok a →
        ∃ e k, parse tag.expression tag.raw = .ok e ∧ (e.operator, k) ∈ operators
          ∧ a.arguments = e.arguments ∧ a.isStatic = onClass
          ∧ a.template = TemplateKind.select a.kind onClass
          ∧ a.template = TemplateKind.select k onClass
          ∧ ((a.kind = k ∧ a.expected = e.expected
                ∧ ¬ (k.isUnary = true ∧ upper e.expected = "FALSE".toList))
              ∨ (k.opposite? = some a.kind ∧ a.expected = []
                ∧ upper e.expected = "FALSE".toList)))
      ∧ ∀ p ∈ oppositeOperators, ∀ (arguments word : Text) (t t' : Tag),
        ')' ∉ arguments → upper word = "FALSE".toList →
        t.expression = TestExpression.print ⟨arguments, p.1, word⟩ →
        t'.expression = TestExpression.print ⟨arguments, p.2, []⟩ →
          ∃ a, ofTag t onClass = .ok a ∧ ofTag t' onClass = .ok a := by
  refine ⟨exists_ofTag_iff, rfl, nodup_operators, ?_, fun _ => parts_of_ofTag, ?_⟩
  · intro e hparse hunknown
    exact ofTag_eq_error_iff.mpr
      (Or.inr ⟨e, hparse, ofOperator?_eq_none_iff.mpr hunknown, rfl⟩)
  · intro p hp arguments word t t' hclosed hupper ht ht'
    have hfalse : spellsFalse word = true := by simpa [spellsFalse] using hupper
    exact ofTag_opposite hp hclosed hfalse ht ht' onClass

/-- A tag whose word `false` is written with a long s. -/
def missingFileTag : Tag :=
  { expression := "(\n'a b' ) !file-exists fal\u017fE", raw := "@assert (\n'a b' ) …" }

/-- The tag with the opposite operator. -/
def foundFileTag : Tag := { expression := "(\n'a b' ) file-exists" }

/-- A tag whose operator is in another case than that of the table. -/
def shoutingTag : Tag := { expression := "(1) EMPTY false", raw := "@assert (1) EMPTY false" }

theorem missingFileTag_asks_for_file :
    upper "fal\u017fE" = "FALSE".toList
      ∧ (∃ a, ofTag missingFileTag true = .ok a ∧ ofTag foundFileTag true = .ok a)
      ∧ (∃ a, ofTag missingFileTag true = .ok a
        ∧ a.template = TemplateKind.select a.kind true)
      ∧ "EMPTY".toList ∉ operators.map Prod.fst
      ∧ ofTag shoutingTag false = .error (.unknownOperator "EMPTY" "@assert (1) EMPTY false") := by
  have hupper : upper "fal\u017fE" = "FALSE".toList := by decide +kernel
  have hclosed : ')' ∉ "\n'a b' ".toList := by decide
  have hpair : ("!file-exists".toList, "file-exists".toList) ∈ oppositeOperators := by decide
  have hunknown : "EMPTY".toList ∉ operators.map Prod.fst := by decide
  obtain ⟨-, -, -, -, hread, hopposite⟩ := assertion_of_tag missingFileTag true
  obtain ⟨-, -, -, herror, -, -⟩ := assertion_of_tag shoutingTag false
  obtain ⟨a, ha, ha'⟩ := hopposite _ hpair "\n'a b' " "fal\u017fE" missingFileTag foundFileTag
    hclosed hupper rfl rfl
  obtain ⟨e, k, -, -, -, -, htemplate, -⟩ := hread a ha
  exact ⟨hupper, ⟨a, ha, ha'⟩, ⟨a, ha, htemplate⟩, hunknown,
    herror ⟨"1", "EMPTY", "false"⟩ (by decide) hunknown⟩

end Assertion

end TestSkeleton
