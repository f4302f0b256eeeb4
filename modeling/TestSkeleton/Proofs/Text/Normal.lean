import TestSkeleton.Text.Normal

set_option autoImplicit false

/-! # The meaning of ASCII texts

Nothing is made of several characters in ASCII, so that an ASCII text is decomposed already and only
equal texts mean the same (`sameMeaning_iff_of_isAscii`).
-/

namespace TestSkeleton.Text

/-- The text consists of ASCII characters. -/
def IsAscii (t : Text) : Prop := ∀ c ∈ t, c.toNat < 0x80

instance (t : Text) : Decidable (IsAscii t) := List.decidableBAll _ t

theorem insertMark_of_isAscii {t : Text} (h : IsAscii t) (c : Char) : insertMark c t = c :: t := by
  cases t with
  | nil => rfl
  | cons d t =>
      have hd : markClass d = 0 := if_pos (h d List.mem_cons_self)
      rw [insertMark, hd]
      rfl

theorem decomposed_of_isAscii {t : Text} (h : IsAscii t) : decomposed t = t := by
  induction t with
  | nil => rfl
  | cons c t ih =>
      obtain ⟨hc, ht⟩ := List.forall_mem_cons.mp h
      have hparts : (charParts c.toNat).map Char.ofNat = [c] := by
        rw [charParts, if_pos hc, List.map_singleton, Char.ofNat_toNat]
      have hrest := ih ht
      rw [decomposed] at hrest ⊢
      rw [List.flatMap_cons, hparts, List.singleton_append, List.foldr_cons, hrest,
        insertMark_of_isAscii ht]

/-- **Only equal ASCII texts mean the same.** -/
theorem sameMeaning_iff_of_isAscii {s t : Text} (hs : IsAscii s) (ht : IsAscii t) :
    sameMeaning s t = true ↔ s = t := by
  simp [sameMeaning, decomposed_of_isAscii hs, decomposed_of_isAscii ht]

end TestSkeleton.Text
