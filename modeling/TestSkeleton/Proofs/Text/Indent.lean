import TestSkeleton.Proofs.Text.Strip
import TestSkeleton.Text.Indent

set_option autoImplicit false

/-! # The indentation that lines share

What is taken from the start of a line as the indentation of its text is blank space of that line.
-/

namespace TestSkeleton.Text

/-- The blank space that the lines share is no longer than that of any line. -/
theorem commonIndentation?_le {ls : List Text} {n : Nat} (h : commonIndentation? ls = some n)
    {l : Text} (hl : l ∈ ls) (hblank : ¬ AllBlank l) : n ≤ indentation l := by
  have hmem : l ∈ ls.filter fun l => !l.all isBlank :=
    List.mem_filter.mpr ⟨hl, by simpa [AllBlank] using hblank⟩
  exact (List.min?_eq_some_iff.mp h).2 _ (List.mem_map.mpr ⟨l, hmem, rfl⟩)

theorem allBlank_take_of_le_indentation {l : Text} {n : Nat} (h : n ≤ indentation l) :
    AllBlank (l.take n) := by
  have hblanks : l.takeWhile isBlank = l.take (indentation l) :=
    List.prefix_iff_eq_take.mp (List.takeWhile_prefix isBlank)
  have htake : l.take n = (l.takeWhile isBlank).take n := by
    rw [hblanks, List.take_take, Nat.min_eq_left h]
  intro c hc
  rw [htake] at hc
  exact List.mem_takeWhile_imp (List.mem_of_mem_take hc)

end TestSkeleton.Text
