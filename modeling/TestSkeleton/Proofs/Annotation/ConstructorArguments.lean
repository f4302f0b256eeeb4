import TestSkeleton.Annotation.ConstructorArguments
import TestSkeleton.Proofs.Text.Parts
import TestSkeleton.Proofs.Text.Word

set_option autoImplicit false

/-! # Where constructor arguments stand

The arguments that a doc comment gives are those of its first place where a keyword, blanks and an
opening parenthesis stand in front of a closing parenthesis in the same line; and they end at the
last closing parenthesis of that line (`constructorArguments_exactly`). A line without a closing
parenthesis gives no arguments, whatever it opens (`findArguments?_newline`).
-/

namespace TestSkeleton.Annotation

open Text

/-! ## Places -/

/-- The text starts with the keyword, spaces or tabs, and an opening parenthesis. `line` is what
stands behind the parenthesis in its line. -/
inductive OpensArguments : Text → Text → Prop
  | intro {gap line rest : Text} (gap_ne : gap ≠ []) (gap_blank : ∀ c ∈ gap, c = ' ' ∨ c = '\t')
      (line_ends : '\n' ∉ line) (rest_behind : rest = [] ∨ ∃ t, rest = '\n' :: t) :
      OpensArguments (keyword ++ (gap ++ '(' :: (line ++ rest))) line

/-- The text gives the arguments at its start: it opens them, and the last closing parenthesis of
the line is right behind them. -/
def GivesArguments (t args : Text) : Prop :=
  ∃ behind, OpensArguments t (args ++ ')' :: behind) ∧ ')' ∉ behind

/-- The text gives the arguments at its first place that gives any. -/
def FirstGives (t args : Text) : Prop :=
  ∃ before rest, t = before ++ rest ∧ GivesArguments rest args ∧
    ∀ u v, t = u ++ v → u.length < before.length → ∀ args', ¬ GivesArguments v args'

/-! ## Reading at a place -/

/-- A line is what stands before the first line feed. -/
theorem takeWhile_line {line rest : Text} (hline : '\n' ∉ line)
    (hrest : rest = [] ∨ ∃ t, rest = '\n' :: t) : (line ++ rest).takeWhile (· != '\n') = line := by
  have hkept : ∀ c ∈ line, (c != '\n') = true := by
    intro c hc
    rw [bne_iff_ne]
    rintro rfl
    exact hline hc
  rw [List.takeWhile_append_of_pos hkept]
  rcases hrest with rfl | ⟨t, rfl⟩ <;> simp

theorem exists_line (t : Text) :
    ∃ line rest, t = line ++ rest ∧ '\n' ∉ line ∧ (rest = [] ∨ ∃ u, rest = '\n' :: u) := by
  refine ⟨t.takeWhile (· != '\n'), t.dropWhile (· != '\n'),
    List.takeWhile_append_dropWhile.symm, fun h => ?_, ?_⟩
  · simpa using List.mem_takeWhile_imp h
  · cases hrest : t.dropWhile (· != '\n') with
    | nil => exact Or.inl rfl
    | cons c u =>
        have hhead := List.head?_dropWhile_not (· != '\n') t
        rw [hrest] at hhead
        have hc : c = '\n' := by simpa using hhead
        exact Or.inr ⟨u, by rw [hc]⟩

theorem beforeLastClosing?_eq_some_iff {line args : Text} :
    beforeLastClosing? line = some args
      ↔ ∃ behind, line = args ++ ')' :: behind ∧ ')' ∉ behind := by
  simp only [beforeLastClosing?, Option.map_eq_some_iff, Prod.exists, cutLast?_eq_some_iff]
  constructor
  · rintro ⟨a, behind, h, rfl⟩
    exact ⟨behind, h⟩
  · rintro ⟨behind, h⟩
    exact ⟨args, behind, h, rfl⟩

/-- Where arguments are opened, they are read from the rest of the line. -/
theorem argumentsAt?_of_opens {t line : Text} (h : OpensArguments t line) :
    argumentsAt? t = beforeLastClosing? line := by
  obtain ⟨hne, hblank, hline, hrest⟩ := h
  next gap rest =>
  have hgap : ∀ c ∈ gap, (c == ' ' || c == '\t') = true := fun c hc => by simpa using hblank c hc
  have hdrop : (gap ++ '(' :: (line ++ rest)).dropWhile (fun c => c == ' ' || c == '\t')
      = '(' :: (line ++ rest) := by
    rw [List.dropWhile_append_of_pos hgap]
    rfl
  have hlength :
      (('(' :: (line ++ rest)).length == (gap ++ '(' :: (line ++ rest)).length) = false := by
    have := List.length_pos_iff.mpr hne
    rw [beq_eq_false_iff_ne, List.length_append]
    omega
  unfold argumentsAt?
  rw [dropPrefix?_append]
  simp only [hdrop, hlength, Bool.false_eq_true, if_false, takeWhile_line hline hrest]

/-- Arguments are read only where they are opened. -/
theorem exists_opens_of_argumentsAt? {t args : Text} (h : argumentsAt? t = some args) :
    ∃ line, OpensArguments t line := by
  unfold argumentsAt? at h
  split at h
  next => cases h
  next u hu =>
    obtain rfl := dropPrefix?_eq_some_iff.mp hu
    obtain ⟨gap, v, hgap, hv, rfl⟩ : ∃ gap v, (∀ c ∈ gap, c = ' ' ∨ c = '\t')
        ∧ u.dropWhile (fun c => c == ' ' || c == '\t') = v ∧ u = gap ++ v :=
      ⟨u.takeWhile fun c => c == ' ' || c == '\t', _,
        fun c hc => by simpa using List.mem_takeWhile_imp hc, rfl,
        List.takeWhile_append_dropWhile.symm⟩
    simp only [hv] at h
    split at h
    next => cases h
    next hlength =>
      split at h
      next v w =>
        obtain ⟨line, rest, rfl, hline, hrest⟩ := exists_line w
        refine ⟨line, .intro ?_ hgap hline hrest⟩
        rintro rfl
        exact hlength (beq_self_eq_true _)
      next => cases h

/-- **What is read at a place** is what the text gives there. -/
theorem argumentsAt?_eq_some_iff {t args : Text} :
    argumentsAt? t = some args ↔ GivesArguments t args := by
  constructor
  · intro h
    obtain ⟨line, hopens⟩ := exists_opens_of_argumentsAt? h
    rw [argumentsAt?_of_opens hopens, beforeLastClosing?_eq_some_iff] at h
    obtain ⟨behind, rfl, hbehind⟩ := h
    exact ⟨behind, hopens, hbehind⟩
  · rintro ⟨behind, hopens, hbehind⟩
    rw [argumentsAt?_of_opens hopens, beforeLastClosing?_eq_some_iff]
    exact ⟨behind, rfl, hbehind⟩

theorem argumentsAt?_eq_none_iff {t : Text} :
    argumentsAt? t = none ↔ ∀ args, ¬ GivesArguments t args := by
  simp only [Option.eq_none_iff_forall_ne_some, ne_eq, argumentsAt?_eq_some_iff]

/-! ## Looking for a place -/

theorem not_givesArguments_nil (args : Text) : ¬ GivesArguments [] args :=
  argumentsAt?_eq_none_iff.mp rfl args

/-- The first place is where the text starts, or else the first one behind its first character. -/
theorem firstGives_cons_iff {c : Char} {t args : Text} :
    FirstGives (c :: t) args ↔ GivesArguments (c :: t) args
      ∨ (∀ args', ¬ GivesArguments (c :: t) args') ∧ FirstGives t args := by
  constructor
  · rintro ⟨before, rest, heq, hgives, hfirst⟩
    cases before with
    | nil => exact .inl (heq ▸ hgives)
    | cons d before =>
        obtain ⟨rfl, rfl⟩ := List.cons.inj heq
        refine .inr ⟨hfirst [] _ rfl (Nat.succ_pos _), before, rest, rfl, hgives, ?_⟩
        intro u v huv hu
        exact hfirst (c :: u) v (congrArg (c :: ·) huv) (Nat.succ_lt_succ hu)
  · rintro (hgives | ⟨hnone, before, rest, rfl, hgives, hfirst⟩)
    · exact ⟨[], c :: t, rfl, hgives, fun u v _ hu => absurd hu (Nat.not_lt_zero _)⟩
    · refine ⟨c :: before, rest, rfl, hgives, fun u v huv hu => ?_⟩
      cases u with
      | nil =>
          obtain rfl : c :: (before ++ rest) = v := huv
          exact hnone
      | cons d u => exact hfirst u v (List.cons.inj huv).2 (Nat.lt_of_succ_lt_succ hu)

/-- **Arguments that are found** are those of the first place. -/
theorem findArguments?_eq_some_iff {t args : Text} :
    findArguments? t = some args ↔ FirstGives t args := by
  induction t with
  | nil =>
      refine iff_of_false nofun ?_
      rintro ⟨before, rest, heq, hgives, -⟩
      obtain ⟨-, rfl⟩ := List.append_eq_nil_iff.mp heq.symm
      exact not_givesArguments_nil args hgives
  | cons c t ih =>
      rw [findArguments?, Option.orElse_eq_or, Option.or_eq_some_iff, argumentsAt?_eq_some_iff,
        argumentsAt?_eq_none_iff, ih, firstGives_cons_iff]

/-- If no place of a text gives arguments, none are found. -/
theorem findArguments?_eq_none_iff {t : Text} :
    findArguments? t = none ↔ ∀ u v, t = u ++ v → ∀ args, ¬ GivesArguments v args := by
  -- the places are the ends of the text
  have hsuffix : (∀ u v, t = u ++ v → ∀ args, ¬ GivesArguments v args)
      ↔ ∀ v, v <:+ t → ∀ args, ¬ GivesArguments v args :=
    ⟨fun h v ⟨u, huv⟩ => h u v huv.symm, fun h u v huv => h v ⟨u, huv.symm⟩⟩
  refine Iff.trans ?_ hsuffix.symm
  clear hsuffix
  induction t with
  | nil => simp [findArguments?, not_givesArguments_nil]
  | cons c t ih =>
      rw [findArguments?, Option.orElse_eq_or, Option.or_eq_none_iff, argumentsAt?_eq_none_iff, ih]
      simp only [List.suffix_cons_iff, or_imp, forall_and, forall_eq]

/-! ## Lines without arguments -/

/-- What gives arguments has its closing parenthesis in its first line. -/
theorem closing_mem_of_gives {u v args : Text} (h : GivesArguments (u ++ '\n' :: v) args) :
    ')' ∈ u := by
  obtain ⟨behind, hopens, -⟩ := h
  generalize ht : u ++ '\n' :: v = t at hopens
  generalize hl : args ++ ')' :: behind = line at hopens
  obtain ⟨-, hblank, hline, -⟩ := hopens
  next gap rest =>
  subst hl
  -- up to the closing parenthesis there is no line feed, so that all of it is in `u`
  let opened := keyword ++ (gap ++ '(' :: (args ++ [')']))
  have hcut : u ++ '\n' :: v = opened ++ (behind ++ rest) := by simp [ht, opened]
  have hgap : '\n' ∉ gap := fun h => by rcases hblank _ h with h | h <;> cases h
  have hkeyword : '\n' ∉ keyword := by decide
  have hopened : '\n' ∉ opened := by
    have hargs : '\n' ∉ args := fun h => hline (List.mem_append_left _ h)
    simp [opened, hkeyword, hgap, hargs]
  have hclosing : ')' ∈ opened := by simp [opened]
  rcases List.append_eq_append_iff.mp hcut with ⟨x, hx, hrest⟩ | ⟨x, rfl, -⟩
  · cases x with
    | nil =>
        rw [List.append_nil] at hx
        rwa [← hx]
    | cons c x =>
        obtain ⟨rfl, -⟩ := List.cons.inj hrest
        rw [hx] at hopened
        exact absurd (List.mem_append_right _ List.mem_cons_self) hopened
  · exact List.mem_append_left _ hclosing

/-- **A line without a closing parenthesis gives no arguments**, even if it opens some. -/
theorem findArguments?_newline {u : Text} (h : ')' ∉ u) (v : Text) :
    findArguments? (u ++ '\n' :: v) = findArguments? v := by
  have hnone : ∀ w, ')' ∉ w → argumentsAt? (w ++ '\n' :: v) = none := by
    intro w hw
    exact argumentsAt?_eq_none_iff.mpr fun args hgives => hw (closing_mem_of_gives hgives)
  induction u with
  | nil =>
      have hread : argumentsAt? ('\n' :: v) = none := hnone [] h
      rw [List.nil_append, findArguments?, hread]
      rfl
  | cons c u ih =>
      have hread : argumentsAt? (c :: (u ++ '\n' :: v)) = none := hnone (c :: u) h
      rw [List.cons_append, findArguments?, hread]
      exact ih fun hu => h (List.mem_cons_of_mem _ hu)

/-! ## Constructor arguments -/

/-- **Where the constructor arguments stand.** They are those of the first place of the doc comment
that gives any, as they are written there, and empty just if there is no such place. What is opened
in a line without a closing parenthesis is passed over. -/
theorem constructorArguments_exactly (doc : Text) :
    (∀ args, constructorArguments doc = args ↔ FirstGives doc args
        ∨ (∀ u v, doc = u ++ v → ∀ args', ¬ GivesArguments v args') ∧ args = []) ∧
      ∀ u v, doc = u ++ '\n' :: v → ')' ∉ u →
        constructorArguments doc = constructorArguments v := by
  constructor
  · intro args
    unfold constructorArguments
    rw [← findArguments?_eq_some_iff, ← findArguments?_eq_none_iff]
    cases findArguments? doc with
    | none => simp [eq_comm]
    | some found => simp
  · rintro u v rfl h
    unfold constructorArguments
    rw [findArguments?_newline h]

example : constructorArguments "@assert (1\n@assert\t(f(2), '@assert (3)') of (4) @assert 5"
    = "f(2), '@assert (3)') of (4".toList := by decide

end TestSkeleton.Annotation
