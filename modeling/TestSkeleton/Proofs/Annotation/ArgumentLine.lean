import TestSkeleton.Proofs.Annotation.ConstructorArguments
import TestSkeleton.Proofs.Annotation.Line
import TestSkeleton.Proofs.Text.LineAround

set_option autoImplicit false

/-! # The line of constructor arguments

The constructor arguments of a class are looked for in its doc comment as it is written, while the
tags of methods are looked for in cleaned lines. Both readers know the same keyword, and they agree
on a place just if two things hold (`arguments_in_marked_line_iff`): the arguments are on a single
line, and on that line the keyword starts a word and has no mark in front of it. The search for
arguments asks for neither (`arguments_without_mark`).
-/

namespace TestSkeleton.Annotation

open Text

/-! ## Cleaning around a keyword -/

/-- What cleaning leaves of the start of a line. -/
def cleanStart (s : Text) : Text :=
  stripStart ((withoutOpening (stripStart s)).dropWhile (· == '*'))

/-- What cleaning leaves of the end of a line. -/
def cleanEnd (t : Text) : Text := stripEnd (withoutClosing (stripEnd t))

section Cleaning

variable (s a t : Text)

theorem strip_around :
    strip (s ++ '@' :: (a ++ '(' :: t)) = stripStart s ++ '@' :: (a ++ '(' :: stripEnd t) := by
  have hstart : stripStart (s ++ '@' :: (a ++ '(' :: t))
      = stripStart s ++ '@' :: a ++ '(' :: t := by
    rw [stripStart_append_cons rfl]
    simp
  rw [strip, hstart, stripEnd_append_cons rfl]
  simp

theorem withoutOpening_around :
    withoutOpening (s ++ '@' :: t) = withoutOpening s ++ '@' :: t := by
  rw [withoutOpening, withoutOpening, dropPrefix?_append_cons (by decide)]
  cases dropPrefix? "/**" s <;> rfl

theorem withoutClosing_around :
    withoutClosing (s ++ '(' :: t) = s ++ '(' :: withoutClosing t := by
  have hlast : (s ++ ['(']).getLast? = some '(' := List.getLast?_concat
  have happend := withoutClosing_append (s := s ++ ['(']) (t := t)
    (by rw [hlast]; decide) (fun _ => by rw [hlast]; decide)
  simpa using happend

theorem dropStars_around :
    (s ++ '@' :: t).dropWhile (· == '*') = s.dropWhile (· == '*') ++ '@' :: t := by
  rw [List.dropWhile_append]
  split
  next hs =>
    rw [List.isEmpty_iff.mp hs]
    rfl
  next => rfl

/-- **Cleaning keeps what is between the sign of a tag and a parenthesis**, and takes away only what
is in front and behind. -/
theorem cleanLine_around :
    cleanLine (s ++ '@' :: (a ++ '(' :: t)) = cleanStart s ++ '@' :: (a ++ '(' :: cleanEnd t) := by
  have hclosing : ∀ u, withoutClosing (u ++ '@' :: (a ++ '(' :: stripEnd t))
      = u ++ '@' :: (a ++ '(' :: withoutClosing (stripEnd t)) := by
    intro u
    simpa using withoutClosing_around (u ++ '@' :: a) (stripEnd t)
  rw [cleanLine_eq, strip_around, withoutOpening_around, hclosing, dropStars_around, strip_around]
  rfl

end Cleaning

/-! ## The line of the arguments -/

/-- The text gives these arguments behind `before`, and none further in front. -/
structure IsFirstPlace (before rest args : Text) : Prop where
  gives : GivesArguments rest args
  first : ∀ u v, before ++ rest = u ++ v → u.length < before.length →
    ∀ args', ¬ GivesArguments v args'

/-- Arguments that are not empty are read from the first place. -/
theorem exists_isFirstPlace {doc : Text} (h : constructorArguments doc ≠ []) :
    ∃ before rest, doc = before ++ rest ∧ IsFirstPlace before rest (constructorArguments doc) := by
  cases hfind : findArguments? doc with
  | none =>
      rw [constructorArguments, hfind] at h
      exact absurd rfl h
  | some args =>
      have hargs : constructorArguments doc = args := by
        rw [constructorArguments, hfind]
        rfl
      obtain ⟨before, rest, rfl, hgives, hfirst⟩ := findArguments?_eq_some_iff.mp hfind
      rw [hargs]
      exact ⟨before, rest, rfl, hgives, hfirst⟩

theorem lineBehind_append {l : Text} (h : IsLine l) (t : Text) :
    lineBehind (l ++ t) = l ++ lineBehind t := by
  have hkept : ∀ c ∈ l, (!isLineBreak c) = true := by
    intro c hc
    rw [h c hc]
    rfl
  rw [lineBehind, List.takeWhile_append_of_pos hkept]
  rfl

/-- The line goes on behind the place with the keyword, blanks and a parenthesis. The arguments
behind it have no line feed, and they are on the line just if they have no other line break. -/
theorem GivesArguments.exists_line {rest args : Text} (h : GivesArguments rest args) :
    ∃ gap tail, gap ≠ [] ∧ (∀ c ∈ gap, c = ' ' ∨ c = '\t') ∧ '\n' ∉ args
      ∧ lineBehind rest = keyword ++ (gap ++ '(' :: tail)
      ∧ (IsLine args → args <+: tail) := by
  obtain ⟨behind, hopens, -⟩ := h
  generalize hl : args ++ ')' :: behind = line at hopens
  obtain ⟨hne, hblank, hline, -⟩ := hopens
  next gap after =>
  subst hl
  have hopened : IsLine (keyword ++ (gap ++ ['('])) := by
    have hkeyword : IsLine keyword := by decide
    have hgap : IsLine gap := by
      intro c hc
      rcases hblank c hc with rfl | rfl <;> rfl
    exact isLine_append.mpr ⟨hkeyword, isLine_append.mpr ⟨hgap, by decide⟩⟩
  refine ⟨gap, lineBehind (args ++ ')' :: behind ++ after), hne, hblank,
    fun hmem => hline (List.mem_append_left _ hmem), ?_, fun hargs => ?_⟩
  · have hsplit : keyword ++ (gap ++ '(' :: (args ++ ')' :: behind ++ after))
        = keyword ++ (gap ++ ['(']) ++ (args ++ ')' :: behind ++ after) := by simp
    rw [hsplit, lineBehind_append hopened]
    simp
  · rw [List.append_assoc, lineBehind_append hargs]
    exact List.prefix_append args _

/-- A line around the place holds the arguments just if they have no line break. -/
theorem GivesArguments.infix_iff {rest args s : Text} (h : GivesArguments rest args)
    (hs : IsLine s) : args <:+: s ++ lineBehind rest ↔ IsLine args := by
  constructor
  · intro hinfix
    have hwhole : IsLine (s ++ lineBehind rest) :=
      isLine_append.mpr ⟨hs, isLine_lineBehind rest⟩
    exact isLine_of_sublist hinfix.sublist hwhole
  · intro hsingle
    obtain ⟨gap, tail, -, -, -, hline, hargs⟩ := h.exists_line
    have htail : tail <:+ s ++ lineBehind rest := by
      rw [hline]
      exact ⟨s ++ keyword ++ gap ++ ['('], by simp⟩
    exact (hargs hsingle).isInfix.trans htail.isInfix

/-- Cleaning such a line keeps the keyword, and what is left behind it opens an expression. -/
theorem GivesArguments.exists_cleanLine {rest args : Text} (h : GivesArguments rest args)
    (s : Text) :
    ∃ behind, cleanLine (s ++ lineBehind rest) = cleanStart s ++ (keyword ++ behind)
      ∧ atWordEnd behind = true ∧ opensExpression (strip behind) = true := by
  obtain ⟨gap, tail, hgap, hblank, -, hline, -⟩ := h.exists_line
  have hallBlank : AllBlank gap := by
    intro c hc
    rcases hblank c hc with rfl | rfl <;> rfl
  refine ⟨gap ++ '(' :: cleanEnd tail, ?_, ?_, ?_⟩
  · have hkeyword : keyword = '@' :: "assert".toList := rfl
    rw [hline, hkeyword]
    simpa using cleanLine_around s ("assert".toList ++ gap) tail
  · obtain ⟨c, gap, rfl⟩ := List.exists_cons_of_ne_nil hgap
    exact hallBlank c List.mem_cons_self
  · rw [strip_append_left hallBlank, strip_cons_of_not_blank rfl]
    rfl

theorem GivesArguments.lineBehind_ne_nil {rest args : Text} (h : GivesArguments rest args) :
    lineBehind rest ≠ [] := by
  obtain ⟨gap, tail, -, -, -, hline, -⟩ := h.exists_line
  rw [hline]
  exact List.cons_ne_nil _ _

/-! ## Both readers -/

/-- **Where both readers agree.** Take any doc comment with constructor arguments that are not
empty, and the line around the first place that gives arguments. The arguments have no line feed,
and they are on this line, hence on a single one, just if they have no other line break. When the
line is cleaned, the keyword is left with an expression behind it. It is found as the mark of the
line, without a note and with this expression, just if no mark is in front and a word may start
there. -/
theorem arguments_in_marked_line_iff (doc : Text) (h : constructorArguments doc ≠ []) :
    ∃ before rest behind, doc = before ++ rest
      ∧ IsFirstPlace before rest (constructorArguments doc)
      ∧ lineBefore before ++ lineBehind rest ∈ lines doc
      ∧ '\n' ∉ constructorArguments doc
      ∧ (constructorArguments doc <:+: lineBefore before ++ lineBehind rest
        ↔ IsLine (constructorArguments doc))
      ∧ cleanLine (lineBefore before ++ lineBehind rest)
        = cleanStart (lineBefore before) ++ (keyword ++ behind)
      ∧ opensExpression (strip behind) = true
      ∧ (Mark.find? (cleanLine (lineBefore before ++ lineBehind rest)) = some ⟨none, behind⟩
        ↔ Mark.find? (cleanStart (lineBefore before)) = none
          ∧ Mark.startsWordBehind true (cleanStart (lineBefore before)) = true) := by
  obtain ⟨before, rest, hdoc, hplace⟩ := exists_isFirstPlace h
  obtain ⟨-, -, -, -, hfeed, -, -⟩ := hplace.gives.exists_line
  obtain ⟨behind, hclean, hword, hopens⟩ := hplace.gives.exists_cleanLine (lineBefore before)
  have hmem : lineBefore before ++ lineBehind rest ∈ lines doc := by
    rw [hdoc]
    exact mem_lines_around hplace.gives.lineBehind_ne_nil
  refine ⟨before, rest, behind, hdoc, hplace, hmem, hfeed,
    hplace.gives.infix_iff (isLine_lineBefore before), hclean, hopens, ?_⟩
  rw [hclean]
  have hheading : heading none = keyword := List.append_nil keyword
  have hnoted : ∀ n ∈ (none : Option Text), IsNote n := by simp
  have hfound := Mark.findFrom?_heading_iff hnoted hword true (cleanStart (lineBefore before))
  rw [hheading] at hfound
  exact hfound

/-- A doc comment with arguments behind text of their line, between line breaks of two kinds. -/
def spacedComment : Text := "A box.\u0085\t/***Made by @assert \t(f(1), ')') */\n@assert-odd (2)"

theorem spacedComment_on_one_line :
    constructorArguments spacedComment ≠ []
      ∧ ∃ before rest behind, spacedComment = before ++ rest
        ∧ IsFirstPlace before rest "f(1), ')'"
        ∧ lineBefore before ++ lineBehind rest ∈ lines spacedComment
        ∧ "f(1), ')'".toList <:+: lineBefore before ++ lineBehind rest
        ∧ opensExpression (strip behind) = true
        ∧ (Mark.find? (cleanLine (lineBefore before ++ lineBehind rest)) = some ⟨none, behind⟩
          ↔ Mark.find? (cleanStart (lineBefore before)) = none
            ∧ Mark.startsWordBehind true (cleanStart (lineBefore before)) = true) := by
  have hargs : constructorArguments spacedComment = "f(1), ')'".toList := by decide +kernel
  have hne : constructorArguments spacedComment ≠ [] := by
    rw [hargs]
    exact List.cons_ne_nil _ _
  obtain ⟨before, rest, behind, hdoc, hplace, hmem, -, honLine, -, hopens, hmark⟩ :=
    arguments_in_marked_line_iff spacedComment hne
  rw [hargs] at hplace honLine
  exact ⟨hne, before, rest, behind, hdoc, hplace, hmem, honLine.mpr (by decide), hopens, hmark⟩

/-- Arguments are read where the keyword is only the end of a word, so that no line has a mark; and
they go on behind a carriage return, so that no line holds them. -/
theorem arguments_without_mark :
    (constructorArguments "email@assert (1)" = "1".toList
      ∧ ∀ l ∈ lines "email@assert (1)", Mark.find? (cleanLine l) = none)
    ∧ constructorArguments "@assert (1)\r@assert (2)" = "1)\r@assert (2".toList
      ∧ ∀ l ∈ lines "@assert (1)\r@assert (2)",
        ¬ constructorArguments "@assert (1)\r@assert (2)" <:+: l := by
  decide +kernel

end TestSkeleton.Annotation
