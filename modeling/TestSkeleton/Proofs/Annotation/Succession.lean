import TestSkeleton.Proofs.Annotation.Decomposition
import TestSkeleton.Proofs.Annotation.Line

set_option autoImplicit false

/-! # Doc comments one after the other

A doc comment from which tags can be read leaves no tag open at its end. So whatever follows it on a
new line is read as if it stood alone (`extract_newline`).
-/

namespace TestSkeleton.Annotation

open Text

/-- **Reading goes on afresh behind a doc comment that can be read.** The tags of a doc comment that
follows it come behind its own, and the error of one that cannot be read is the same error. -/
theorem extract_newline {s : Text} {ts : List Tag} (hs : extract s = .ok ts) (t : Text) :
    extract (s ++ '\n' :: t) = (extract t).map (ts ++ ·) := by
  have hcut : IsCutInto (cleanLines s) ts := isCutInto_of_readTags hs
  unfold extract
  rcases cleanLines_newline_or s t with h | h
  · rw [h]
    exact readTags_append_of_isCutInto hcut (cleanLines t)
  · -- the line feed stands for an empty line, which is a gap
    have hgap : IsGap [[]] := by decide
    calc readTags none (cleanLines (s ++ '\n' :: t))
        = (readTags none ([[]] ++ cleanLines t)).map (ts ++ ·) := by
          rw [h]
          exact readTags_append_of_isCutInto hcut _
      _ = (readTags none (cleanLines t)).map (ts ++ ·) := by rw [readTags_gap_append hgap]

/-- A doc comment that ends in the middle of a line break. -/
def halfBrokenComment : Text := "@assert Adds two numbers.\r\n(2, 3) == 5\r"

/-- The tag of the doc comment. -/
def addsTag : Tag :=
  { preface := ["Adds two numbers."], expression := "(2, 3) == 5",
    raw := "@assert Adds two numbers.\n(2, 3) == 5" }

theorem halfBrokenComment_newline :
    extract halfBrokenComment = .ok [addsTag]
      ∧ extract (halfBrokenComment ++ '\n' :: "@assert-zero (0) empty".toList)
        = (extract "@assert-zero (0) empty").map ([addsTag] ++ ·)
      ∧ extract (halfBrokenComment ++ '\n' :: "@assert Nothing.".toList)
        = .error ⟨"@assert Nothing."⟩ := by
  have hread : extract halfBrokenComment = .ok [addsTag] := by decide
  exact ⟨hread, extract_newline hread _, extract_newline hread _⟩

end TestSkeleton.Annotation
