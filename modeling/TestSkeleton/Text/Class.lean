import TestSkeleton.Text.Basic
import TestSkeleton.Text.Table.Name
import TestSkeleton.Text.Table.Word
import TestSkeleton.Text.Table.Printable

set_option autoImplicit false

/-! # Classes of characters

Letters, digits and printable characters, in all of Unicode. A code point belongs to a class if one
of the class's ranges holds it; the ASCII part is decided without the tables.
-/

namespace TestSkeleton.Text

/-- Whether one of the ranges holds `n`. -/
def inRanges (ranges : List (Nat × Nat)) (n : Nat) : Bool :=
  ranges.any fun r => r.1 ≤ n && n ≤ r.2

/-- The lower-case ASCII letters. -/
def isAsciiLower (c : Char) : Bool := 'a' ≤ c && c ≤ 'z'

/-- The upper-case ASCII letters. -/
def isAsciiUpper (c : Char) : Bool := 'A' ≤ c && c ≤ 'Z'

/-- The ASCII digits. -/
def isAsciiDigit (c : Char) : Bool := '0' ≤ c && c ≤ '9'

/-- The ASCII letters. -/
def isAsciiLetter (c : Char) : Bool := isAsciiLower c || isAsciiUpper c

/-- Letters and numbers. -/
def isAlphanumeric (c : Char) : Bool :=
  if c.toNat < 0x80 then isAsciiLetter c || isAsciiDigit c
  else inRanges Table.alphanumeric c.toNat

/-- Characters of words and names: letters, numbers and the underscore. -/
def isWordChar (c : Char) : Bool := isAlphanumeric c || c == '_'

/-- Characters of words, and the marks that names may have. -/
def isNameChar (c : Char) : Bool :=
  isWordChar c || (0x80 ≤ c.toNat && inRanges Table.nameMark c.toNat)

/-- The value of a decimal digit of any script. -/
def digitValue? (c : Char) : Option Nat :=
  if c.toNat < 0x80 then if isAsciiDigit c then some (c.toNat - 48) else none
  else
    (Table.decimalDigit.find? fun r => r.1 ≤ c.toNat && c.toNat ≤ r.2).map
      fun r => (c.toNat - r.1) % 10

/-- Decimal digits of any script. -/
def isDecimalDigit (c : Char) : Bool := (digitValue? c).isSome

/-- Whether a name may start with a character that names may have. -/
def startsName (c : Char) : Bool :=
  if isWordChar c then !isDecimalDigit c && !inRanges Table.trailing c.toNat
  else Table.leadingMark.contains c.toNat

/-- Whether a text is a name: a letter or an underscore, and behind it letters, digits, underscores
and marks. -/
def isName (t : Text) : Bool :=
  t.head?.any startsName
    && t.all fun c => isNameChar c && !(0x80 ≤ c.toNat && inRanges Table.unnamed c.toNat)

/-- Characters that a quoted text shows as they are. -/
def isPrintable (c : Char) : Bool :=
  if c.toNat < 0x7f then 0x20 ≤ c.toNat else inRanges Table.printable c.toNat

/-- The value of a hexadecimal digit. -/
def hexValue? (c : Char) : Option Nat :=
  if isAsciiDigit c then some (c.toNat - 48)
  else if 'a' ≤ c && c ≤ 'f' then some (c.toNat - 87)
  else if 'A' ≤ c && c ≤ 'F' then some (c.toNat - 55)
  else none

/-- The number that digits write in a base, as far as they are digits. -/
def numeral (base : Nat) (digits : Text) : Nat :=
  (digits.filterMap hexValue?).foldl (fun n d => n * base + d) 0

/-- The digits of `n` in lower-case hexadecimal, with zeros in front up to `width` of them. -/
def hex (width n : Nat) : Text :=
  let d := Nat.toDigits 16 n
  List.replicate (width - d.length) '0' ++ d

end TestSkeleton.Text
