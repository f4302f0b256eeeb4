import TestSkeleton.Assertion.Expression
import TestSkeleton.Proofs.Text.Word

set_option autoImplicit false

/-! # The parts of a test expression

`HasParts` says what a test expression is made of: the arguments between an opening parenthesis and
the first closing one, blank space, the operator, and the expected value up to the end. Exactly the
texts of this form can be read (`read?_eq_ok_iff`), and `HasFault` is what keeps all others from
being read (`read?_eq_error_iff`).
-/

namespace TestSkeleton.TestExpression

open Text

/-- The text is a test expression with these parts, each without blank space at its ends. -/
inductive HasParts : Text → TestExpression → Prop
  | intro {arguments gap operator rest : Text} (closed : ')' ∉ arguments) (blank : AllBlank gap)
      (parted : gap ≠ []) (word : IsWord operator) (ended : atWordEnd rest = true) :
      HasParts ('(' :: (arguments ++ ')' :: (gap ++ (operator ++ rest))))
        ⟨strip arguments, operator, strip rest⟩

theorem read?_of_hasParts {t : Text} {e : TestExpression} (h : HasParts (strip t) e) :
    read? t = .ok e := by
  generalize hs : strip t = s at h
  cases h with
  | @intro arguments gap operator rest hclosed hblank hparted hword hended =>
      obtain ⟨c, gap, rfl⟩ := List.exists_cons_of_ne_nil hparted
      have hc : isBlank c = true := hblank c List.mem_cons_self
      have hfirst := firstWord_append hblank hword hended
      obtain ⟨d, operator, rfl⟩ := List.exists_cons_of_ne_nil hword.1
      simp only [List.cons_append] at hfirst
      simp only [read?, hs, cut?_append hclosed, List.cons_append, hc, hfirst, strip_stripStart,
        Bool.not_true, Bool.false_eq_true, if_false]

theorem hasParts_of_read? {t : Text} {e : TestExpression} (h : read? t = .ok e) :
    HasParts (strip t) e := by
  unfold read? at h
  split at h
  next u hu =>
    split at h
    next => cases h
    next arguments rest hcut =>
      obtain ⟨rfl, hclosed⟩ := cut?_eq_some_iff.mp hcut
      split at h
      next => cases h
      next c rest =>
        split at h
        next => cases h
        next hc =>
          have hc : isBlank c = true := by simpa using hc
          obtain ⟨gap, behind, hgap, hrest, hword, hended, hbehind⟩ := exists_firstWord (c :: rest)
          split at h
          next => cases h
          next operator expected hempty hfirst =>
            rw [hfirst] at hrest hword hbehind
            have hne : operator ≠ [] := hempty
            -- the blank space behind the arguments is none of the operator
            have hparted : gap ≠ [] := by
              rintro rfl
              obtain ⟨d, operator, rfl⟩ := List.exists_cons_of_ne_nil hne
              obtain ⟨rfl, -⟩ := List.cons.inj hrest
              exact absurd hc (by simp [hword c List.mem_cons_self])
            obtain rfl : expected = stripStart behind := hbehind
            cases h
            rw [hu, hrest, strip_stripStart]
            exact .intro hclosed hgap hparted ⟨hne, hword⟩ hended
  next => cases h

/-- **Exactly the texts with the parts of a test expression can be read**, as these parts. -/
theorem read?_eq_ok_iff {t : Text} {e : TestExpression} :
    read? t = .ok e ↔ HasParts (strip t) e :=
  ⟨hasParts_of_read?, read?_of_hasParts⟩

/-! ## What cannot be read -/

/-- What keeps a text from being a test expression: it does not start with a parenthesis, no other
parenthesis closes that one, or the text behind the closing one does not go on with blank space. -/
inductive HasFault : Text → Fault → Prop
  | notParenthesized {t : Text} (unopened : t.head? ≠ some '(') : HasFault t .notParenthesized
  | unclosed {u : Text} (endless : ')' ∉ u) : HasFault ('(' :: u) .unclosed
  | missingOperator {arguments rest : Text} (closed : ')' ∉ arguments)
      (unparted : ∀ c ∈ rest.head?, isBlank c = false) :
      HasFault ('(' :: (arguments ++ ')' :: rest)) .missingOperator

theorem read?_of_hasFault {t : Text} {f : Fault} (h : HasFault (strip t) f) :
    read? t = .error f := by
  generalize hs : strip t = s at h
  cases h with
  | notParenthesized hunopened =>
      unfold read?
      split
      next u hu =>
        rw [← hs, hu] at hunopened
        exact absurd rfl hunopened
      next => rfl
  | unclosed hendless => simp only [read?, hs, cut?_eq_none_iff.mpr hendless]
  | @missingOperator arguments rest hclosed hunparted =>
      simp only [read?, hs, cut?_append hclosed]
      cases rest with
      | nil => rfl
      | cons c rest =>
          have hc : isBlank c = false := hunparted c rfl
          simp only [hc, Bool.not_false, if_true]

theorem hasFault_of_read? {t : Text} {f : Fault} (h : read? t = .error f) :
    HasFault (strip t) f := by
  unfold read? at h
  split at h
  next u hu =>
    rw [hu]
    split at h
    next hcut =>
      cases h
      exact .unclosed (cut?_eq_none_iff.mp hcut)
    next arguments rest hcut =>
      obtain ⟨rfl, hclosed⟩ := cut?_eq_some_iff.mp hcut
      split at h
      next =>
        cases h
        exact .missingOperator hclosed (by simp)
      next c rest =>
        split at h
        next hc =>
          cases h
          exact .missingOperator hclosed (by simpa using hc)
        next =>
          split at h
          next hfirst =>
            -- the text does not end in blank space, so that a word follows the arguments
            have hword : (firstWord (c :: rest)).1 ≠ [] :=
              firstWord_ne_nil_of_strip_eq (s := '(' :: (arguments ++ [')']))
                (by rw [hu]; simp) (List.cons_ne_nil _ _)
            exact absurd (by rw [hfirst]) hword
          next => cases h
  next hopen =>
    cases h
    refine .notParenthesized fun hhead => ?_
    obtain ⟨u, hu⟩ := List.head?_eq_some_iff.mp hhead
    exact hopen u hu

/-- **Exactly the texts with a fault cannot be read**, for this fault. Blank space behind the
arguments is never all that follows them, so that an operator is missing only where there is no such
space. -/
theorem read?_eq_error_iff {t : Text} {f : Fault} :
    read? t = .error f ↔ HasFault (strip t) f :=
  ⟨hasFault_of_read?, read?_of_hasFault⟩

end TestSkeleton.TestExpression
