import TestSkeleton.Proofs.Text.Split

set_option autoImplicit false

/-! # Texts made of lines

`lines` takes apart what `unlines` has put together, but for an empty line at the end, which the
text does not show (`lines_unlines`). Any text is made of the pieces between its line feeds
(`unlines_splitOn`), which are the lines that it was put together from (`splitOn_unlines`), and a
line feed parts the lines before it from those behind it (`lines_newline_or`).
-/

namespace TestSkeleton.Text

/-- The text is a single line: no character of it ends a line. -/
def IsLine (l : Text) : Prop := ∀ c ∈ l, isLineBreak c = false

instance (l : Text) : Decidable (IsLine l) := List.decidableBAll _ l

theorem isLine_append {s t : Text} : IsLine (s ++ t) ↔ IsLine s ∧ IsLine t := by
  simp [IsLine, or_imp, forall_and]

theorem isLine_cons {c : Char} {t : Text} :
    IsLine (c :: t) ↔ isLineBreak c = false ∧ IsLine t := by
  simp [IsLine]

theorem isLine_replicate (n : Nat) : IsLine (List.replicate n ' ') := by
  intro c hc
  rw [List.eq_of_mem_replicate hc]
  rfl

theorem isLine_of_sublist {s t : Text} (h : s.Sublist t) (ht : IsLine t) : IsLine s :=
  fun c hc => ht c (h.subset hc)

theorem lines_cons_of_not_break {c : Char} (h : isLineBreak c = false) (t : Text) :
    lines (c :: t) = match lines t with
      | [] => [[c]]
      | l :: ls => (c :: l) :: ls := by
  have hc : c ≠ '\r' := by
    rintro rfl
    exact absurd h (by decide)
  rw [lines.eq_3 c t (fun _ hr _ => hc hr), h]
  rfl

theorem lines_newline_cons (t : Text) : lines ('\n' :: t) = [] :: lines t := by
  rw [lines.eq_3 '\n' t (fun _ hr _ => absurd hr (by decide))]
  rfl

/-- A line feed ends the line before it. -/
theorem lines_append_newline {l : Text} (h : IsLine l) (t : Text) :
    lines (l ++ '\n' :: t) = l :: lines t := by
  induction l with
  | nil => exact lines_newline_cons t
  | cons c l ih =>
      obtain ⟨hc, hl⟩ := isLine_cons.mp h
      rw [List.cons_append, lines_cons_of_not_break hc, ih hl]

/-- The end of the text ends a line, if the line is not empty. -/
theorem lines_of_isLine {l : Text} (h : IsLine l) : lines l = if l.isEmpty then [] else [l] := by
  induction l with
  | nil => rfl
  | cons c l ih =>
      obtain ⟨hc, hl⟩ := isLine_cons.mp h
      rw [lines_cons_of_not_break hc, ih hl]
      cases l <;> rfl

theorem lines_eq_nil_iff {t : Text} : lines t = [] ↔ t = [] := by
  fun_cases lines t <;> simp

/-- A character that ends a line on its own leaves the lines behind it as they are. -/
theorem lines_cons_of_break {c : Char} {t : Text} (h : isLineBreak c = true)
    (ht : ∀ u, c = '\r' → t ≠ '\n' :: u) : lines (c :: t) = [] :: lines t := by
  rw [lines.eq_3 c t ht, if_pos h]

/-- It does so too if more text is put behind them, unless it becomes half of a break. -/
theorem lines_cons_append_of_break {c : Char} {s t : Text} (h : isLineBreak c = true)
    (hs : ∀ u, c = '\r' → s ≠ '\n' :: u) (ht : c = '\r' → s = [] → t.head? ≠ some '\n') :
    lines (c :: (s ++ t)) = [] :: lines (s ++ t) := by
  refine lines_cons_of_break h fun u hr hu => ?_
  cases s with
  | nil =>
      obtain rfl : t = '\n' :: u := hu
      exact ht hr rfl rfl
  | cons d s =>
      obtain ⟨rfl, -⟩ := List.cons.inj hu
      exact hs s hr rfl

/-- A line feed takes the lines apart. At the end of a line that has ended already, it stands for an
empty line. -/
theorem lines_newline_or (s t : Text) :
    lines (s ++ '\n' :: t) = lines s ++ lines t
      ∨ lines (s ++ '\n' :: t) = lines s ++ [] :: lines t := by
  fun_induction lines s with
  | case1 => exact Or.inr (lines_newline_cons t)
  | case2 s ih =>
      have hstep : lines ('\r' :: '\n' :: (s ++ '\n' :: t)) = [] :: lines (s ++ '\n' :: t) := by
        rw [lines]
      exact ih.imp (fun h => hstep.trans (congrArg _ h)) fun h => hstep.trans (congrArg _ h)
  | case3 c s hs hc ih =>
      by_cases hcr : c = '\r' ∧ s = []
      · -- the line feed belongs to the carriage return before it
        obtain ⟨rfl, rfl⟩ := hcr
        exact Or.inl rfl
      · have hstep : lines (c :: (s ++ '\n' :: t)) = [] :: lines (s ++ '\n' :: t) :=
          lines_cons_append_of_break hc hs fun hr hnil => absurd ⟨hr, hnil⟩ hcr
        exact ih.imp (fun h => hstep.trans (congrArg _ h)) fun h => hstep.trans (congrArg _ h)
  | case4 c s hs hc hls ih =>
      obtain rfl := lines_eq_nil_iff.mp hls
      have hc : isLineBreak c = false := by simpa using hc
      rw [List.cons_append, lines_cons_of_not_break hc, List.nil_append, lines_newline_cons]
      exact Or.inl rfl
  | case5 c s hs hc l ls hls ih =>
      have hc : isLineBreak c = false := by simpa using hc
      rw [List.cons_append, lines_cons_of_not_break hc]
      rw [hls] at ih
      rcases ih with h | h
      · exact Or.inl (by rw [h]; rfl)
      · exact Or.inr (by rw [h]; rfl)

/-- The lines of a text are single lines. -/
theorem isLine_of_mem_lines {t l : Text} (h : l ∈ lines t) : IsLine l := by
  fun_induction lines t generalizing l with
  | case1 => cases h
  | case2 t ih =>
      rcases List.mem_cons.mp h with rfl | h
      · simp [IsLine]
      · exact ih h
  | case3 c t hc hb ih =>
      rcases List.mem_cons.mp h with rfl | h
      · simp [IsLine]
      · exact ih h
  | case4 c t hc hb hls ih =>
      obtain rfl := List.mem_singleton.mp h
      simpa [IsLine] using hb
  | case5 c t hc hb l' ls hls ih =>
      rw [hls] at ih
      rcases List.mem_cons.mp h with rfl | h
      · exact isLine_cons.mpr ⟨by simpa using hb, ih List.mem_cons_self⟩
      · exact ih (List.mem_cons_of_mem l' h)

theorem unlines_singleton (l : Text) : unlines [l] = l := joinWith_singleton ['\n'] l

theorem unlines_cons_cons (l l' : Text) (ls : List Text) :
    unlines (l :: l' :: ls) = l ++ '\n' :: unlines (l' :: ls) :=
  (joinWith_cons_cons ['\n'] l l' ls).trans (List.append_assoc _ _ _)

theorem unlines_append_empty {ls : List Text} (h : ls ≠ []) :
    unlines (ls ++ [[]]) = unlines ls ++ ['\n'] := by
  induction ls with
  | nil => exact absurd rfl h
  | cons l ls ih =>
      cases ls with
      | nil => rw [List.singleton_append, unlines_cons_cons, unlines_singleton, unlines_singleton]
      | cons l' ls =>
          calc unlines (l :: l' :: ls ++ [[]])
              = l ++ '\n' :: unlines (l' :: ls ++ [[]]) := unlines_cons_cons l l' (ls ++ [[]])
            _ = l ++ '\n' :: (unlines (l' :: ls) ++ ['\n']) := by rw [ih (List.cons_ne_nil _ _)]
            _ = unlines (l :: l' :: ls) ++ ['\n'] := by rw [unlines_cons_cons]; simp

/-- Each line stands in the text that is made of the lines. -/
theorem infix_unlines_of_mem {l : Text} {ls : List Text} (h : l ∈ ls) : l <:+: unlines ls := by
  induction ls with
  | nil => cases h
  | cons l' ls ih =>
      cases ls with
      | nil =>
          obtain rfl := List.mem_singleton.mp h
          exact (unlines_singleton l).symm ▸ List.infix_rfl
      | cons l'' ls =>
          rw [unlines_cons_cons]
          rcases List.mem_cons.mp h with rfl | h
          · exact (List.prefix_append l _).isInfix
          · have hrest : unlines (l'' :: ls) <:+ l' ++ '\n' :: unlines (l'' :: ls) :=
              (List.suffix_cons '\n' _).trans (List.suffix_append l' _)
            exact (ih h).trans hrest.isInfix

/-- **The lines of a text made of lines** are these lines, without the last one if that is empty. -/
theorem lines_unlines {ls : List Text} (h : ∀ l ∈ ls, IsLine l) :
    ls = lines (unlines ls) ∨ ls = lines (unlines ls) ++ [[]] := by
  induction ls with
  | nil => exact Or.inl rfl
  | cons l ls ih =>
      have hl := h l List.mem_cons_self
      cases ls with
      | nil =>
          rw [unlines_singleton, lines_of_isLine hl]
          cases l with
          | nil => exact Or.inr rfl
          | cons c t => exact Or.inl rfl
      | cons l' ls =>
          rw [unlines_cons_cons, lines_append_newline hl]
          rcases ih fun u hu => h u (List.mem_cons_of_mem l hu) with hls | hls
          · exact Or.inl (congrArg (l :: ·) hls)
          · exact Or.inr (congrArg (l :: ·) hls)

/-! ## Pieces between line feeds -/

/-- **Every text is made of the pieces between its line feeds.** -/
theorem unlines_splitOn (t : Text) : unlines (splitOn '\n' t) = t := joinWith_splitOn '\n' t

/-- **The pieces of a text made of lines** are these lines. -/
theorem splitOn_unlines {ls : List Text} (hne : ls ≠ []) (h : ∀ l ∈ ls, IsLine l) :
    splitOn '\n' (unlines ls) = ls :=
  splitOn_joinWith hne fun l hl hmem => absurd (h l hl '\n' hmem) (by decide)

end TestSkeleton.Text
