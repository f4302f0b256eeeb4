import TestSkeleton.Proofs.Annotation.MarkedLine
import TestSkeleton.Proofs.Annotation.Preface
import TestSkeleton.Proofs.Assertion.Basic
import TestSkeleton.Proofs.Assertion.Expression

set_option autoImplicit false

/-! # Assertions of the tags of a doc comment

The tags that are read from a doc comment are fit to be read on: their expressions are single lines
that start with a parenthesis (`opens_of_extract`), and their texts show what they were read from
(`raw_of_extract`). So of the faults that an expression can have one never occurs, and every error
shows the text of the tag (`errors_of_extract`).
-/

namespace TestSkeleton

open Annotation Text

namespace Annotation

/-! ## Blocks -/

section Blocks

variable {block : List Text} {t : Tag}

/-- The expression of a block starts with a parenthesis, on either of the two ways to end it. -/
theorem IsBlock.opens (h : IsBlock block t) : opensExpression t.expression = true := by
  cases h with
  | onOneLine hmark hopens => exact hopens
  | onLines hopen hopens => exact hopens

/-- The expression is a part of one of the lines. -/
theorem IsBlock.exists_infix (h : IsBlock block t) : ∃ l ∈ block, t.expression <:+: l := by
  cases h with
  | @onOneLine l m hmark hopens =>
      have hstrip : strip m.rest <:+: m.rest := by
        obtain ⟨p, q, -, -, hrest⟩ := exists_blank_strip_blank m.rest
        exact ⟨p, q, hrest.symm⟩
      exact ⟨l, List.mem_singleton_self l, hstrip.trans (Mark.rest_suffix hmark).isInfix⟩
  | @onLines l e middle m hopen hopens => exact ⟨e, by simp, List.infix_rfl⟩

/-- The keyword stands on one of the lines. -/
theorem IsBlock.exists_keyword (h : IsBlock block t) : ∃ l ∈ block, keyword <:+: l := by
  obtain ⟨l, further, rfl, hmarked, -⟩ := h.exists_cons
  obtain ⟨m, hmark⟩ := Option.isSome_iff_exists.mp hmarked
  exact ⟨l, List.mem_cons_self, Mark.keyword_infix hmark⟩

/-- The text of a block holds what stands on its lines. -/
theorem IsBlock.infix_raw (h : IsBlock block t) {s l : Text} (hl : l ∈ block) (hs : s <:+: l) :
    s <:+: t.raw := by
  rw [h.raw_eq]
  exact hs.trans (infix_unlines_of_mem hl)

end Blocks

/-! ## Tags of a doc comment -/

section Extraction

variable {doc : Text} {ts : List Tag} {t : Tag}

/-- **The expression that is read** is a single line, from its opening parenthesis on. -/
theorem opens_of_extract (h : extract doc = .ok ts) (ht : t ∈ ts) :
    IsLine t.expression ∧ ∃ u, t.expression = '(' :: u := by
  obtain ⟨block, hblock, hlines⟩ := exists_block_of_extract h ht
  obtain ⟨l, hl, hinfix⟩ := hblock.exists_infix
  have hhead : t.expression.head? = some '(' := by
    simpa [opensExpression] using hblock.opens
  exact ⟨isLine_of_sublist hinfix.sublist (hlines l hl).2, List.head?_eq_some_iff.mp hhead⟩

/-- **The text of a tag** holds the keyword and the expression. -/
theorem raw_of_extract (h : extract doc = .ok ts) (ht : t ∈ ts) :
    keyword <:+: t.raw ∧ t.expression <:+: t.raw := by
  obtain ⟨block, hblock, -⟩ := exists_block_of_extract h ht
  obtain ⟨l, hl, hkeyword⟩ := hblock.exists_keyword
  obtain ⟨l', hl', hexpression⟩ := hblock.exists_infix
  exact ⟨hblock.infix_raw hl hkeyword, hblock.infix_raw hl' hexpression⟩

end Extraction

end Annotation

namespace TestExpression

/-- The expression is not read: it has no closing parenthesis, or no blank space behind the first
one. -/
def IsMalformed (t : Text) : Prop :=
  ')' ∉ t ∨ ∃ before rest, t = before ++ ')' :: rest ∧ ')' ∉ before
    ∧ ∀ c ∈ rest.head?, isBlank c = false

/-- Of a text that starts with a parenthesis, this is the only thing that can be wrong. -/
theorem exists_hasFault_iff {u : Text} :
    (∃ f, HasFault ('(' :: u) f) ↔ IsMalformed ('(' :: u) := by
  have hparenthesis : ')' ≠ '(' := by decide
  constructor
  · rintro ⟨f, hfault⟩
    cases hfault with
    | notParenthesized hunopened => exact absurd rfl hunopened
    | unclosed hendless => exact Or.inl (by simp [hendless])
    | @missingOperator arguments rest hclosed hunparted =>
        refine Or.inr ⟨'(' :: arguments, rest, rfl, ?_, hunparted⟩
        simp [hclosed]
  · rintro (hendless | ⟨before, rest, heq, hclosed, hunparted⟩)
    · exact ⟨_, .unclosed fun hmem => hendless (List.mem_cons_of_mem _ hmem)⟩
    · cases before with
      | nil => exact absurd (List.cons.inj heq).1.symm hparenthesis
      | cons c before =>
          obtain ⟨rfl, rfl⟩ := List.cons.inj heq
          have hclosed : ')' ∉ before := fun hmem => hclosed (List.mem_cons_of_mem _ hmem)
          exact ⟨_, .missingOperator hclosed hunparted⟩

end TestExpression

/-- **The tags of a doc comment are fit to be read on.** Take any tag of any doc comment. Its
expression is a single line without blank space at its ends, from its opening parenthesis on; its
text is not empty and holds the keyword and the expression. So no error says that the expression
does not start with a parenthesis, every error shows just the text of the tag, and the error is
about the form of the expression just if that has no closing parenthesis or no blank space behind
the first one. -/
theorem errors_of_extract {doc : Text} {ts : List Tag} (h : extract doc = .ok ts) {t : Tag}
    (ht : t ∈ ts) (onClass : Bool) :
    strip t.expression = t.expression ∧ IsLine t.expression ∧ (∃ u, t.expression = '(' :: u)
      ∧ t.raw ≠ [] ∧ keyword <:+: t.raw ∧ t.expression <:+: t.raw
      ∧ (∀ x, Assertion.ofTag t onClass = .error x →
        x.raw = t.raw ∧ ∀ raw, x ≠ .malformed .notParenthesized raw)
      ∧ ((∃ f raw, Assertion.ofTag t onClass = .error (.malformed f raw))
        ↔ TestExpression.IsMalformed t.expression) := by
  have hstrip := expression_trimmed_of_extract h ht
  obtain ⟨hline, u, hu⟩ := opens_of_extract h ht
  obtain ⟨hkeyword, hexpression⟩ := raw_of_extract h ht
  have hraw : t.raw ≠ [] := by
    rintro hnil
    rw [hnil] at hkeyword
    exact absurd (List.infix_nil.mp hkeyword) (by decide)
  refine ⟨hstrip, hline, ⟨u, hu⟩, hraw, hkeyword, hexpression, ?_, ?_⟩
  · intro x hx
    refine ⟨Assertion.raw_of_ofTag_eq_error hraw hx, ?_⟩
    rintro raw rfl
    have hfault := TestExpression.hasFault_of_read? (Assertion.read?_of_notParenthesized hx)
    rw [hstrip, hu] at hfault
    cases hfault with
    | notParenthesized hunopened => exact hunopened rfl
  · simp only [Assertion.exists_malformed_iff, TestExpression.read?_eq_error_iff, hstrip]
    rw [hu]
    exact TestExpression.exists_hasFault_iff

/-- A doc comment with two tags: one has its expression on a line of its own and an operator that is
none, the other one has no blank space behind its arguments. -/
def faultyComment : Text :=
  "/** @assert-odd Sums.\r\n * \u00a0(1, 2 ) = 3\u2028 * x @assert\t(f(1))) == 1 */"

/-- The tag with the unknown operator. -/
def singleEqualsTag : Tag :=
  { note := some "odd", preface := ["Sums."], expression := "(1, 2 ) = 3"
    raw := "@assert-odd Sums.\n(1, 2 ) = 3" }

/-- The tag whose arguments are cut short. -/
def cutShortTag : Tag := { expression := "(f(1))) == 1", raw := "x @assert\t(f(1))) == 1" }

theorem extract_faultyComment : extract faultyComment = .ok [singleEqualsTag, cutShortTag] := by
  decide +kernel

theorem faultyComment_errors :
    extract faultyComment = .ok [singleEqualsTag, cutShortTag]
      ∧ singleEqualsTag ∈ [singleEqualsTag, cutShortTag]
      ∧ cutShortTag ∈ [singleEqualsTag, cutShortTag]
      ∧ ¬ TestExpression.IsMalformed singleEqualsTag.expression
      ∧ (∃ x, Assertion.ofTag singleEqualsTag false = .error x ∧ x.raw = singleEqualsTag.raw)
      ∧ TestExpression.IsMalformed cutShortTag.expression
      ∧ ∃ f raw, Assertion.ofTag cutShortTag true = .error (.malformed f raw) := by
  have hfirst : singleEqualsTag ∈ [singleEqualsTag, cutShortTag] := by simp
  have hsecond : cutShortTag ∈ [singleEqualsTag, cutShortTag] := by simp
  have herror : Assertion.ofTag singleEqualsTag false
      = .error (.unknownOperator "=" singleEqualsTag.raw) := by decide
  have hmalformed : TestExpression.IsMalformed cutShortTag.expression := by
    refine Or.inr ⟨"(f(1", ")) == 1", rfl, by decide, ?_⟩
    rintro c ⟨⟩
    rfl
  obtain ⟨-, -, -, -, -, -, hshown, hwell⟩ :=
    errors_of_extract extract_faultyComment hfirst false
  obtain ⟨-, -, -, -, -, -, -, hcut⟩ := errors_of_extract extract_faultyComment hsecond true
  refine ⟨extract_faultyComment, hfirst, hsecond, fun hbad => ?_, ⟨_, herror, (hshown _ herror).1⟩,
    hmalformed, hcut.mpr hmalformed⟩
  obtain ⟨f, raw, hx⟩ := hwell.mpr hbad
  rw [herror] at hx
  cases hx

end TestSkeleton
