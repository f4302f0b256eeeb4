import TestSkeleton.Proofs.Annotation.Preface
import TestSkeleton.Proofs.Assertion.Expression
import TestSkeleton.Proofs.Assertion.Kind
import TestSkeleton.Proofs.TestClass.Text

set_option autoImplicit false

/-! # Assertions without an expected value

A test expression can end in its operator. For the operators that look at the actual value alone
nothing is missing then; all others write an expected value into the test, which is left out.
`LacksExpected` are the expressions for which this happens, and the assertions with nothing in the
place of the expected value come from exactly these (`incomplete_iff_lacksExpected`).
-/

namespace TestSkeleton

open Annotation Text

/-! ## Templates with an expected value -/

/-- Whether a template writes the expected value into the test. -/
def TemplateKind.writesExpected : TemplateKind → Bool
  | generic | genericStatic | exception | exceptionStatic => true
  | boolean | booleanStatic | incomplete | testClass => false

theorem TemplateKind.writesExpected_select (k : AssertionKind) (onClass : Bool) :
    (select k onClass).writesExpected = !k.isUnary := by
  cases k <;> cases onClass <;> rfl

/-! ## Expressions that end in their operator -/

namespace TestExpression

/-- The test expression ends in an operator that does not look at the actual value alone. -/
inductive LacksExpected : Text → Prop
  | intro {arguments gap operator : Text} {k : AssertionKind} (closed : ')' ∉ arguments)
      (blank : AllBlank gap) (parted : gap ≠ [])
      (known : AssertionKind.ofOperator? operator = some k) (takes : k.isUnary = false) :
      LacksExpected ('(' :: (arguments ++ ')' :: (gap ++ operator)))

/-- **An expression is read without an expected value** just if it ends in its operator. -/
theorem lacksExpected_iff {t : Text} (ht : strip t = t) :
    LacksExpected t ↔ ∃ e k, read? t = .ok e ∧ AssertionKind.ofOperator? e.operator = some k
      ∧ k.isUnary = false ∧ e.expected = [] := by
  constructor
  · intro h
    cases h with
    | @intro arguments gap operator k hclosed hblank hparted hknown htakes =>
        have hword := AssertionKind.isWord_of_ofOperator? hknown
        have hended : atWordEnd [] = true := rfl
        have hparts := HasParts.intro hclosed hblank hparted hword hended
        rw [List.append_nil, ← ht] at hparts
        exact ⟨_, k, read?_eq_ok_iff.mpr hparts, hknown, htakes, rfl⟩
  · rintro ⟨e, k, hread, hknown, htakes, hexpected⟩
    have hparts := read?_eq_ok_iff.mp hread
    rw [ht] at hparts
    cases hparts with
    | @intro arguments gap operator rest hclosed hblank hparted hword hended =>
        have hsplit : '(' :: (arguments ++ ')' :: (gap ++ (operator ++ rest)))
            = '(' :: (arguments ++ ')' :: (gap ++ operator)) ++ rest := by simp
        rw [hsplit] at ht
        -- a blank rest would be blank space at the end of the expression
        obtain rfl := eq_nil_of_strip_append ht (strip_eq_nil_iff.mp hexpected)
        rw [List.append_nil]
        exact .intro hclosed hblank hparted hknown htakes

end TestExpression

/-! ## Assertions without an expected value -/

/-- **Assertions with nothing in the place of the expected value** come from the tags whose
expression ends in an operator that takes one, and these tags are not refused. -/
theorem incomplete_iff_lacksExpected {doc : Text} {ts : List Tag} (hdoc : extract doc = .ok ts)
    {t : Tag} (ht : t ∈ ts) (onClass : Bool) :
    (∃ a, Assertion.ofTag t onClass = .ok a ∧ a.template.writesExpected = true ∧ a.expected = [])
      ↔ TestExpression.LacksExpected t.expression := by
  rw [TestExpression.lacksExpected_iff (expression_trimmed_of_extract hdoc ht)]
  constructor
  · rintro ⟨a, ha, hwrites, hexpected⟩
    obtain ⟨e, k, hparse, hkind, rfl⟩ := Assertion.ofTag_eq_ok_iff.mp ha
    have htakes : k.isUnary = false := by
      simpa [TemplateKind.writesExpected_select] using hwrites
    rw [AssertionKind.normalize_of_isUnary_eq_false htakes] at hexpected
    exact ⟨e, k, Assertion.parse_eq_ok_iff.mp hparse, Assertion.kindOf_eq_ok_iff.mp hkind, htakes,
      hexpected⟩
  · rintro ⟨e, k, hread, hknown, htakes, hexpected⟩
    have hnormal := AssertionKind.normalize_of_isUnary_eq_false htakes e.expected
    refine ⟨_, Assertion.ofTag_eq_ok_iff.mpr ⟨e, k, Assertion.parse_eq_ok_iff.mpr hread,
      Assertion.kindOf_eq_ok_iff.mpr hknown, rfl⟩, ?_, ?_⟩
    · simp [TemplateKind.writesExpected_select, htakes]
    · rw [hnormal]
      exact hexpected

/-! ## Two tags without an expected value -/

/-- A tag that compares with nothing. -/
def valuelessTag : Tag := { expression := "(1) ==", raw := "@assert (1) ==" }

/-- A tag that expects no exception in particular. -/
def exceptionlessTag : Tag :=
  { note := some "stop", preface := ["Stops."], expression := "(0)  throws",
    raw := "@assert-stop Stops.\n(0)  throws" }

/-- A doc comment with both tags. -/
def valuelessComment : Text := "@assert (1) == \n@assert-stop Stops.\n\t(0)  throws\n"

theorem extract_valuelessComment :
    extract valuelessComment = .ok [valuelessTag, exceptionlessTag] := by
  decide

theorem valuelessTag_lacksExpected :
    extract valuelessComment = .ok [valuelessTag, exceptionlessTag]
      ∧ valuelessTag ∈ [valuelessTag, exceptionlessTag]
      ∧ (∃ a, Assertion.ofTag valuelessTag false = .ok a ∧ a.template.writesExpected = true
        ∧ a.expected = [])
      ∧ TestExpression.LacksExpected valuelessTag.expression := by
  have hmem : valuelessTag ∈ [valuelessTag, exceptionlessTag] := List.mem_cons_self
  have hincomplete : ∃ a, Assertion.ofTag valuelessTag false = .ok a
      ∧ a.template.writesExpected = true ∧ a.expected = [] :=
    ⟨⟨.equals, "1", [], .generic, false⟩, by decide, rfl, rfl⟩
  exact ⟨extract_valuelessComment, hmem, hincomplete,
    (incomplete_iff_lacksExpected extract_valuelessComment hmem false).mp hincomplete⟩

/-- The test of the first tag calls a method with nothing in the place of its first argument, and
that of the second one expects no exception. -/
theorem valuelessComment_incomplete :
    extract valuelessComment = .ok [valuelessTag, exceptionlessTag]
      ∧ (∃ a, Assertion.ofTag valuelessTag false = .ok a ∧ a.template = .generic ∧ a.expected = []
        ∧ a.text "self.object.f(1)"
          = "        self.assertEquals(\n            ,\n            self.object.f(1),\n        )\n")
      ∧ ∃ a, Assertion.ofTag exceptionlessTag true = .ok a ∧ a.template = .exceptionStatic
        ∧ a.expected = []
        ∧ a.text "A.f(0)" = "        with self.assertRaises():\n            A.f(0)\n" :=
  ⟨extract_valuelessComment, ⟨⟨.equals, "1", [], .generic, false⟩, by decide, rfl, rfl, by decide⟩,
    ⟨.exception, "0", [], .exceptionStatic, true⟩, by decide, rfl, rfl, by decide⟩

end TestSkeleton
