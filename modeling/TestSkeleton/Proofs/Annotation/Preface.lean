import TestSkeleton.Proofs.Annotation.Decomposition
import TestSkeleton.Proofs.Annotation.Line
import TestSkeleton.Proofs.Text.Joined

set_option autoImplicit false

/-! # The expression and the preface of a tag

The expression and the lines of the preface come from the cleaned lines of the doc comment. So they
have no blank space at their ends (`expression_trimmed_of_extract`, `preface_trimmed_of_extract`),
and no line of the preface is lost when they are joined to one text (`pieces_prefaceText`).
-/

namespace TestSkeleton.Annotation

open Text

/-- A line that is not empty and has no blank space at its ends. -/
structure IsTrimmedLine (l : Text) : Prop where
  ne_nil : l ≠ []
  trimmed : strip l = l
  isLine : IsLine l

/-- The preface of a tag is made of lines of its block, and of the end of the first one. -/
theorem IsBlock.preface_trimmed {block : List Text} {t : Tag} (h : IsBlock block t)
    (hblock : ∀ l ∈ block, strip l = l ∧ IsLine l) : ∀ p ∈ t.preface, IsTrimmedLine p := by
  cases h with
  | onOneLine => simp
  | @onLines l e middle m hopen hexpr =>
      intro p hp
      obtain ⟨hmem, hne⟩ := List.mem_filter.mp hp
      have hne : p ≠ [] := by simpa using hne
      rcases List.mem_cons.mp hmem with rfl | hmem
      · have hl := hblock l (by simp)
        cases hopen with
        | intro hmark =>
            have hrest : IsLine m.rest := isLine_of_sublist (Mark.rest_suffix hmark).sublist hl.2
            exact ⟨hne, strip_strip _, isLine_of_sublist (strip_sublist _) hrest⟩
      · obtain ⟨htrim, hline⟩ := hblock p (by simp [hmem])
        exact ⟨hne, htrim, hline⟩

/-- The expression of a tag is a line of its block, or the end of the first one. -/
theorem IsBlock.expression_trimmed {block : List Text} {t : Tag} (h : IsBlock block t)
    (hblock : ∀ l ∈ block, strip l = l ∧ IsLine l) : strip t.expression = t.expression := by
  cases h with
  | onOneLine => exact strip_strip _
  | @onLines l e middle m => exact (hblock e (by simp)).1

/-- The lines of the tags of a doc comment are cleaned lines. -/
theorem exists_block_of_extract {doc : Text} {ts : List Tag} (h : extract doc = .ok ts) {t : Tag}
    (ht : t ∈ ts) : ∃ block, IsBlock block t ∧ ∀ l ∈ block, strip l = l ∧ IsLine l := by
  obtain ⟨block, hblock, hsub⟩ := (isCutInto_of_readTags h).exists_block ht
  exact ⟨block, hblock, fun l hl => trimmed_of_mem_cleanLines (hsub hl)⟩

/-- The expression that is read has no blank space at its ends, whatever the doc comment. -/
theorem expression_trimmed_of_extract {doc : Text} {ts : List Tag} (h : extract doc = .ok ts)
    {t : Tag} (ht : t ∈ ts) : strip t.expression = t.expression := by
  obtain ⟨block, hblock, hlines⟩ := exists_block_of_extract h ht
  exact hblock.expression_trimmed hlines

/-- **The preface that is read** has trimmed lines only, whatever the doc comment. -/
theorem preface_trimmed_of_extract {doc : Text} {ts : List Tag} (h : extract doc = .ok ts) {t : Tag}
    (ht : t ∈ ts) : ∀ p ∈ t.preface, IsTrimmedLine p := by
  obtain ⟨block, hblock, hlines⟩ := exists_block_of_extract h ht
  exact hblock.preface_trimmed hlines

/-! ## The text of a preface -/

section PrefaceText

variable {t : Tag}

theorem prefaceText_eq (h : ∀ p ∈ t.preface, IsTrimmedLine p) :
    t.prefaceText = joinWith prefaceSeparator t.preface :=
  strip_joinWith (fun p hp => (h p hp).ne_nil) fun p hp => (h p hp).trimmed

/-- **The lines of a preface can be told apart** in its text. -/
theorem pieces_prefaceText (h : ∀ p ∈ t.preface, IsTrimmedLine p) (hne : t.preface ≠ []) :
    pieces prefaceSeparator t.prefaceText = t.preface := by
  rw [prefaceText_eq h]
  refine pieces_joinWith hne fun p hp hmem => ?_
  -- the separator starts with a line feed, which no line holds
  exact absurd ((h p hp).isLine '\n' hmem) (by decide)

end PrefaceText

end TestSkeleton.Annotation
