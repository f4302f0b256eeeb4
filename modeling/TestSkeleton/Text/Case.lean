import TestSkeleton.Text.Class
import TestSkeleton.Text.Table.Case

set_option autoImplicit false

/-! # Upper and lower case

The full case mappings: the upper case of one character may be several (`ß` gives `SS`), and a
capital sigma becomes a final sigma at the end of a word.
-/

namespace TestSkeleton.Text

/-- The image of a code point under the first row of a case table that holds it. -/
def caseImage? (rows : List (Nat × Nat × Nat × Nat)) (n : Nat) : Option Nat :=
  (rows.find? fun r => r.1 ≤ n && n ≤ r.2.1 && (n - r.1) % r.2.2.1 == 0).map
    fun r => r.2.2.2 + (n - r.1)

/-- The upper case of a character. -/
def upperChar (c : Char) : Text :=
  if c.toNat < 0x80 then
    [if isAsciiLower c then Char.ofNat (c.toNat - 32) else c]
  else
    match Table.toUpperLong.lookup c.toNat with
    | some image => image.map Char.ofNat
    | none => [((caseImage? Table.toUpper c.toNat).map Char.ofNat).getD c]

/-- The text in upper case. -/
def upper (t : Text) : Text := t.flatMap upperChar

/-- The text with its first character in upper case and the rest as it is. -/
def capitalizeFirst : Text → Text
  | [] => []
  | c :: t => upperChar c ++ t

/-- The lower case of a character, the context of a sigma apart. -/
def lowerChar (c : Char) : Text :=
  if c.toNat < 0x80 then
    [if isAsciiUpper c then Char.ofNat (c.toNat + 32) else c]
  else if c.toNat == 0x130 then [Char.ofNat 0x69, Char.ofNat 0x307]
  else [((caseImage? Table.toLower c.toNat).map Char.ofNat).getD c]

/-- Whether the first character that is not passed over has case. -/
def meetsCased (t : Text) : Bool :=
  match t.dropWhile fun c => inRanges Table.caseIgnorable c.toNat with
  | [] => false
  | c :: _ => inRanges Table.cased c.toNat

/-- The lower case of the second text, `before` being what precedes it, last character first. -/
def lowerAfter : Text → Text → Text
  | _, [] => []
  | before, c :: t =>
    (if c.toNat == 0x3a3 then
      [Char.ofNat (if meetsCased before && !meetsCased t then 0x3c2 else 0x3c3)]
    else lowerChar c) ++ lowerAfter (c :: before) t

/-- The text in lower case. -/
def lower (t : Text) : Text := lowerAfter [] t

end TestSkeleton.Text
