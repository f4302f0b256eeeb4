import Mathlib.Data.List.DropRight
import TestSkeleton.Proofs.Text.Lines

set_option autoImplicit false

/-! # The line around a place

A place in a text parts it into what is in front and what is behind. The line around it reaches back
to the last line break in front (`lineBefore`) and on to the first one behind (`lineBehind`), and it
is one of the lines of the text (`mem_lines_around`).
-/

namespace TestSkeleton.Text

/-! ## Both halves of the line -/

/-- What the text ends in behind its last line break. -/
def lineBefore (t : Text) : Text := t.rtakeWhile (!isLineBreak ·)

/-- What the text starts with in front of its first line break. -/
def lineBehind (t : Text) : Text := t.takeWhile (!isLineBreak ·)

theorem isLine_lineBefore (t : Text) : IsLine (lineBefore t) := by
  intro c hc
  simpa using List.mem_rtakeWhile_imp hc

theorem isLine_lineBehind (t : Text) : IsLine (lineBehind t) := by
  intro c hc
  simpa using List.mem_takeWhile_imp hc

/-- In front of its last line a text is empty or ends in a line break. -/
theorem exists_append_lineBefore (t : Text) :
    t = lineBefore t ∨ ∃ s c, isLineBreak c = true ∧ t = s ++ c :: lineBefore t := by
  have ht : t = t.rdropWhile (!isLineBreak ·) ++ lineBefore t :=
    List.rdropWhile_append_rtakeWhile.symm
  by_cases hnil : t.rdropWhile (!isLineBreak ·) = []
  · left
    conv_lhs => rw [ht, hnil]
    rfl
  · refine Or.inr ⟨(t.rdropWhile (!isLineBreak ·)).dropLast,
      (t.rdropWhile (!isLineBreak ·)).getLast hnil, ?_, ?_⟩
    · simpa using List.rdropWhile_last_not (!isLineBreak ·) t hnil
    · conv_lhs => rw [ht, ← List.dropLast_append_getLast hnil]
      simp

/-- Behind its first line a text is empty or starts with a line break. -/
theorem exists_lineBehind_append (t : Text) :
    ∃ rest, t = lineBehind t ++ rest ∧ ∀ c ∈ rest.head?, isLineBreak c = true := by
  refine ⟨t.dropWhile (!isLineBreak ·), List.takeWhile_append_dropWhile.symm, fun c hc => ?_⟩
  have hhead := List.head?_dropWhile_not (!isLineBreak ·) t
  rw [hc] at hhead
  simpa using hhead

/-! ## Lines at a line break -/

theorem exists_lines_cons_of_break {c : Char} (h : isLineBreak c = true) (t : Text) :
    ∃ ls, lines (c :: t) = [] :: ls := by
  by_cases hcr : ∃ u, c = '\r' ∧ t = '\n' :: u
  · obtain ⟨u, rfl, rfl⟩ := hcr
    exact ⟨lines u, rfl⟩
  · exact ⟨lines t, lines_cons_of_break h fun u hc ht => hcr ⟨u, hc, ht⟩⟩

/-- A line that is not empty is the first one of the text that it starts. -/
theorem exists_lines_append {l rest : Text} (hl : IsLine l) (hne : l ≠ [])
    (hrest : ∀ c ∈ rest.head?, isLineBreak c = true) : ∃ ls, lines (l ++ rest) = l :: ls := by
  induction l with
  | nil => exact absurd rfl hne
  | cons c l ih =>
      obtain ⟨hc, hl⟩ := isLine_cons.mp hl
      rw [List.cons_append, lines_cons_of_not_break hc]
      by_cases hnil : l = []
      · subst hnil
        rw [List.nil_append]
        cases rest with
        | nil => exact ⟨[], rfl⟩
        | cons d rest =>
            obtain ⟨ls, hls⟩ := exists_lines_cons_of_break (hrest d rfl) rest
            exact ⟨ls, by rw [hls]⟩
      · obtain ⟨ls, hls⟩ := ih hl hnil
        exact ⟨ls, by rw [hls]⟩

/-- A line break takes the lines apart, unless it is the first half of one. -/
theorem lines_append_break {c : Char} (hc : isLineBreak c = true) {t : Text}
    (ht : t.head? ≠ some '\n') (s : Text) :
    lines (s ++ c :: t) = lines (s ++ [c]) ++ lines t := by
  have hwhole : ∀ u, t ≠ '\n' :: u := by
    rintro u rfl
    exact ht rfl
  fun_induction lines s with
  | case1 =>
      have hlast : lines [c] = [[]] := lines_cons_of_break hc (by simp)
      rw [List.nil_append, List.nil_append, hlast, lines_cons_of_break hc fun u _ => hwhole u]
      rfl
  | case2 s ih =>
      have hstep : ∀ u, lines ('\r' :: '\n' :: (s ++ u)) = [] :: lines (s ++ u) := by
        intro u
        rw [lines]
      calc lines ('\r' :: '\n' :: (s ++ c :: t))
          = [] :: lines (s ++ c :: t) := hstep (c :: t)
        _ = [] :: lines (s ++ [c]) ++ lines t := by rw [ih, List.cons_append]
        _ = lines ('\r' :: '\n' :: (s ++ [c])) ++ lines t := by rw [hstep [c]]
  | case3 d s hs hd ih =>
      by_cases hhalf : d = '\r' ∧ s = [] ∧ c = '\n'
      · -- both characters are one break
        obtain ⟨rfl, rfl, rfl⟩ := hhalf
        rfl
      · have hstep : ∀ u, lines (d :: (s ++ c :: u)) = [] :: lines (s ++ c :: u) := fun u =>
          lines_cons_append_of_break hd hs fun hr hnil hfeed =>
            hhalf ⟨hr, hnil, Option.some.inj hfeed⟩
        calc lines (d :: (s ++ c :: t))
            = [] :: lines (s ++ c :: t) := hstep t
          _ = [] :: lines (s ++ [c]) ++ lines t := by rw [ih, List.cons_append]
          _ = lines (d :: (s ++ [c])) ++ lines t := by rw [hstep []]
  | case4 d s hs hd hls ih =>
      obtain rfl := lines_eq_nil_iff.mp hls
      have hd : isLineBreak d = false := by simpa using hd
      rw [List.nil_append, List.nil_append] at ih
      have hlast : lines [c] = [[]] := lines_cons_of_break hc (by simp)
      rw [List.cons_append, List.cons_append, lines_cons_of_not_break hd,
        lines_cons_of_not_break hd, List.nil_append, List.nil_append, ih, hlast]
      rfl
  | case5 d s hs hd l ls hls ih =>
      have hd : isLineBreak d = false := by simpa using hd
      rw [List.cons_append, List.cons_append, lines_cons_of_not_break hd,
        lines_cons_of_not_break hd, ih]
      cases hlines : lines (s ++ [c]) with
      | nil => exact absurd (lines_eq_nil_iff.mp hlines) (by simp)
      | cons l' ls' => rfl

/-! ## The whole line -/

/-- **The line around a place** is a line of the text, if it goes on behind the place. -/
theorem mem_lines_around {s t : Text} (ht : lineBehind t ≠ []) :
    lineBefore s ++ lineBehind t ∈ lines (s ++ t) := by
  have hline : IsLine (lineBefore s ++ lineBehind t) :=
    isLine_append.mpr ⟨isLine_lineBefore s, isLine_lineBehind t⟩
  have hne : lineBefore s ++ lineBehind t ≠ [] := List.append_ne_nil_of_right_ne_nil _ ht
  obtain ⟨rest, hrest, hbreak⟩ := exists_lineBehind_append t
  obtain ⟨ls, hls⟩ := exists_lines_append hline hne hbreak
  rw [List.append_assoc, ← hrest] at hls
  rcases exists_append_lineBefore s with hs | ⟨u, c, hc, hs⟩
  · rw [← hs] at hls ⊢
    rw [hls]
    exact List.mem_cons_self
  · have hhead : (lineBefore s ++ t).head? ≠ some '\n' := by
      obtain ⟨d, l, hl⟩ := List.exists_cons_of_ne_nil hne
      rw [hrest, ← List.append_assoc, hl]
      intro hd
      obtain rfl : d = '\n' := Option.some.inj hd
      rw [hl] at hline
      exact absurd (isLine_cons.mp hline).1 (by decide)
    have hsplit : s ++ t = u ++ c :: (lineBefore s ++ t) := by
      conv_lhs => rw [hs]
      simp
    rw [hsplit, lines_append_break hc hhead, hls]
    exact List.mem_append_right _ List.mem_cons_self

end TestSkeleton.Text
