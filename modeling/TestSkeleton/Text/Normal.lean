import TestSkeleton.Text.Class
import TestSkeleton.Text.Table.Decomposition

set_option autoImplicit false

/-! # Texts that mean the same

A character may be a variant of another one or be made of several, as a letter with an accent is.
`decomposed` takes a text apart, down to characters that are neither, and puts the marks behind a
letter in the order of their classes, so that two texts mean the same if that makes them equal.
-/

namespace TestSkeleton.Text

/-- The parts of a syllable of Hangul: its initial, its vowel and its final, if it has one. The
syllables are numbered by their finals first, then by their vowels. -/
def hangulParts (n : Nat) : List Nat :=
  let initial := 0x1100 + n / 588
  let vowel := 0x1161 + n % 588 / 28
  if n % 28 == 0 then [initial, vowel] else [initial, vowel, 0x11a7 + n % 28]

/-- The code points that a character is made of, which are its own unless it can be taken apart. -/
def charParts (n : Nat) : List Nat :=
  if n < 0x80 then [n]
  else if 0xac00 ≤ n && n ≤ 0xd7a3 then hangulParts (n - 0xac00)
  else
    match Table.variant.find? fun r => r.1 ≤ n && n ≤ r.2.1 with
    | some r => [r.2.2 + (n - r.1)]
    | none => (Table.composite.lookup n).getD [n]

/-- The class of a mark, zero for all other characters. -/
def markClass (c : Char) : Nat :=
  if c.toNat < 0x80 then 0
  else
    match Table.markClass.find? fun r => r.1 ≤ c.toNat && c.toNat ≤ r.2.1 with
    | some r => r.2.2
    | none => 0

/-- Puts a character in front of a text, but a mark behind the marks of lower classes there. -/
def insertMark (c : Char) : Text → Text
  | [] => [c]
  | d :: t =>
    if markClass d != 0 && markClass d < markClass c then d :: insertMark c t else c :: d :: t

/-- The text taken apart, with its marks in order. -/
def decomposed (t : Text) : Text :=
  (t.flatMap fun c => (charParts c.toNat).map Char.ofNat).foldr insertMark []

/-- Whether two texts mean the same. -/
def sameMeaning (s t : Text) : Bool := s == t || decomposed s == decomposed t

end TestSkeleton.Text
