import Mathlib.Data.List.Basic
import TestSkeleton.Proofs.Text.Strip
import TestSkeleton.Text.Case

set_option autoImplicit false

/-! # Characters of texts in upper and lower case

Blank space has no case, so that upper case neither brings any about nor takes any away: what spells
a word in some case is a word. A text in lower case has no capital letter of ASCII
(`isAsciiUpper_of_mem_lower`), and lower case keeps all characters before those letters where they
are, such as slashes and blanks, and brings none about (`mem_lower_iff`).
-/

namespace TestSkeleton.Text

/-! ## Upper case -/

/-- The code points of blank space. -/
def blankCodes : List Nat :=
  List.range' 0x09 5 ++ List.range' 0x1c 5 ++ List.range' 0x2000 11
    ++ [0x85, 0xa0, 0x1680, 0x2028, 0x2029, 0x202f, 0x205f, 0x3000]

theorem toNat_mem_blankCodes {c : Char} (h : isBlank c = true) : c.toNat ∈ blankCodes := by
  simp only [isBlank, Bool.or_eq_true, Bool.and_eq_true, decide_eq_true_eq, beq_iff_eq] at h
  simp only [blankCodes, List.mem_append, List.mem_range'_1, List.mem_cons, List.not_mem_nil,
    or_false]
  omega

/-- **Blank space has no upper case.** -/
theorem upperChar_of_isBlank {c : Char} (h : isBlank c = true) : upperChar c = [c] := by
  have hall : ∀ n ∈ blankCodes, upperChar (Char.ofNat n) = [Char.ofNat n] := by decide +kernel
  have hc := hall _ (toNat_mem_blankCodes h)
  rwa [Char.ofNat_toNat] at hc

/-- Blank space of a text is left in its upper case. -/
theorem mem_upper_of_isBlank {c : Char} {t : Text} (h : isBlank c = true) (hc : c ∈ t) :
    c ∈ upper t := by
  refine List.mem_flatMap.mpr ⟨c, hc, ?_⟩
  rw [upperChar_of_isBlank h]
  exact List.mem_singleton_self c

/-! ## Lower case -/

/-- The lower case of a code point is no ASCII character before the small letters. -/
theorem le_of_caseImage?_toLower {m n : Nat} (h : caseImage? Table.toLower n = some m) :
    97 ≤ m := by
  have hrows : ∀ r ∈ Table.toLower, 97 ≤ r.2.2.2 := by decide +kernel
  obtain ⟨r, hr, rfl⟩ := Option.map_eq_some_iff.mp h
  have := hrows r (List.mem_of_find?_eq_some hr)
  omega

theorem toNat_ofNat_or (n : Nat) : (Char.ofNat n).toNat = n ∨ (Char.ofNat n).toNat = 0 := by
  by_cases h : n.isValidChar
  · have heq : Char.ofNat n = Char.ofNatAux n h := dif_pos h
    exact .inl (by rw [heq]; rfl)
  · have heq : Char.ofNat n = ⟨0, .inl (by decide)⟩ := dif_neg h
    exact .inr (by rw [heq]; rfl)

theorem isAsciiUpper_iff {c : Char} : isAsciiUpper c = true ↔ 65 ≤ c.toNat ∧ c.toNat ≤ 90 := by
  simp [isAsciiUpper, Char.le_def, UInt32.le_iff_toNat_le]

/-- A character in lower case is the character itself, which is no capital letter then, or none of
the ASCII characters before the small letters. -/
theorem mem_lowerChar {c d : Char} (h : d ∈ lowerChar c) :
    d = c ∧ isAsciiUpper c = false ∨ d.toNat = 0 ∨ 97 ≤ d.toNat := by
  unfold lowerChar at h
  split at h
  next =>
    obtain rfl := List.mem_singleton.mp h
    split
    next hupper =>
      have := isAsciiUpper_iff.mp hupper
      rcases toNat_ofNat_or (c.toNat + 32) with h | h <;> omega
    next hupper => exact .inl ⟨rfl, by simpa using hupper⟩
  next hascii =>
    split at h
    next =>
      rcases List.mem_cons.mp h with rfl | h
      · exact .inr (.inr (by decide))
      · obtain rfl := List.mem_singleton.mp h
        exact .inr (.inr (by decide))
    next =>
      obtain rfl := List.mem_singleton.mp h
      cases himage : caseImage? Table.toLower c.toNat with
      | none =>
          refine .inl ⟨rfl, ?_⟩
          rw [Bool.eq_false_iff, Ne, isAsciiUpper_iff]
          omega
      | some m =>
          have := le_of_caseImage?_toLower himage
          rcases toNat_ofNat_or m with h | h
          · exact .inr (.inr (by simp [h, this]))
          · exact .inr (.inl h)

theorem mem_lowerAfter {before t : Text} {d : Char} (h : d ∈ lowerAfter before t) :
    d ∈ t ∧ isAsciiUpper d = false ∨ d.toNat = 0 ∨ 97 ≤ d.toNat := by
  induction t generalizing before with
  | nil => cases h
  | cons c t ih =>
      rw [lowerAfter, List.mem_append] at h
      rcases h with h | h
      · split at h
        next =>
          obtain rfl := List.mem_singleton.mp h
          split <;> exact .inr (.inr (by decide))
        next =>
          refine (mem_lowerChar h).imp_left ?_
          rintro ⟨rfl, hupper⟩
          exact ⟨List.mem_cons_self, hupper⟩
      · exact (ih h).imp_left fun ⟨hmem, hupper⟩ => ⟨List.mem_cons_of_mem c hmem, hupper⟩

/-- **A text in lower case has no capital letters** of ASCII. -/
theorem isAsciiUpper_of_mem_lower {t : Text} {d : Char} (h : d ∈ lower t) :
    isAsciiUpper d = false := by
  rcases mem_lowerAfter h with ⟨-, hupper⟩ | hcode
  · exact hupper
  · rw [Bool.eq_false_iff, Ne, isAsciiUpper_iff]
    omega

theorem mem_lowerAfter_of_mem {before t : Text} {d : Char} (hd : lowerChar d = [d])
    (hsigma : d.toNat ≠ 0x3a3) (h : d ∈ t) : d ∈ lowerAfter before t := by
  induction t generalizing before with
  | nil => cases h
  | cons c t ih =>
      rw [lowerAfter, List.mem_append]
      rcases List.mem_cons.mp h with rfl | h
      · refine .inl ?_
        rw [if_neg (by simpa using hsigma), hd]
        exact List.mem_singleton_self d
      · exact .inr (ih h)

/-- **Lower case keeps the characters before the letters**, and none of them comes about. -/
theorem mem_lower_iff {t : Text} {d : Char} (hzero : d.toNat ≠ 0) (hd : d.toNat < 65) :
    d ∈ lower t ↔ d ∈ t := by
  constructor
  · intro h
    rcases mem_lowerAfter h with ⟨hmem, -⟩ | hcode
    · exact hmem
    · omega
  · have hlower : lowerChar d = [d] := by
      have hupper : isAsciiUpper d = false := by
        rw [Bool.eq_false_iff, Ne, isAsciiUpper_iff]
        omega
      rw [lowerChar, if_pos (by omega), hupper]
      rfl
    exact mem_lowerAfter_of_mem hlower (by omega)

end TestSkeleton.Text
