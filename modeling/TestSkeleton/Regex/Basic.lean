import TestSkeleton.Text.Class

set_option autoImplicit false

/-! # Regular expressions

Patterns with classes of characters, groups, repetitions, alternatives and references back to what
a group matched. A pattern is made for texts or for bytes; in one for bytes the named classes hold
ASCII characters only.
-/

namespace TestSkeleton.Regex

/-- The classes of characters that have a name. -/
inductive NamedClass where
  | digit | word | blank
deriving DecidableEq, Repr

/-- What a class of characters is made of. Code points are numbers here because a pattern may name
one that no text holds. -/
inductive ClassMember where
  | range (low high : Nat)
  | named (name : NamedClass) (negated : Bool)
deriving DecidableEq, Repr

/-- A class of characters. -/
structure CharClass where
  members : List ClassMember
  negated : Bool := false
deriving DecidableEq, Repr

/-- Conditions on a place in the text. -/
inductive Anchor where
  /-- Before everything. -/
  | start
  /-- Behind everything, or before a line feed that is the last character. -/
  | ending
  /-- Behind everything. -/
  | lastEnding
  /-- Between a character of a word and another character or an end. -/
  | wordEdge
  /-- Anywhere else in a text that is not empty. -/
  | noWordEdge
deriving DecidableEq, Repr

/-- How many repetitions a pattern tries first. -/
inductive Greed where
  /-- As many as possible. -/
  | greedy
  /-- As few as possible. -/
  | lazy
  /-- As many as possible, and no others. -/
  | possessive
deriving DecidableEq, Repr

end Regex

/-- A pattern. -/
inductive Regex where
  | empty
  | character (c : Regex.CharClass)
  | anchor (a : Regex.Anchor)
  | sequence (first second : Regex)
  | either (first second : Regex)
  /-- At least `low` and at most `high` repetitions. -/
  | repeated (r : Regex) (low : Nat) (high : Option Nat) (greed : Regex.Greed)
  | group (number : Nat) (r : Regex)
  /-- What the group of this number matched last. -/
  | reference (number : Nat)
deriving DecidableEq, Repr

namespace Regex

/-- The class of the character with this code point. -/
def CharClass.single (n : Nat) : CharClass := ⟨[.range n n], false⟩

/-- Whether a named class holds a character. -/
def NamedClass.holds (asciiOnly : Bool) (c : Char) : NamedClass → Bool
  | digit => if asciiOnly then Text.isAsciiDigit c else Text.isDecimalDigit c
  | word =>
    if asciiOnly then Text.isAsciiLetter c || Text.isAsciiDigit c || c == '_' else Text.isWordChar c
  | blank => if asciiOnly then c == ' ' || ('\t' ≤ c && c ≤ '\r') else Text.isBlank c

/-- Whether a member of a class holds a character. -/
def ClassMember.holds (asciiOnly : Bool) (c : Char) : ClassMember → Bool
  | range low high => low ≤ c.toNat && c.toNat ≤ high
  | named name negated => name.holds asciiOnly c != negated

/-- Whether a class holds a character. -/
def CharClass.holds (asciiOnly : Bool) (k : CharClass) (c : Char) : Bool :=
  k.members.any (fun m => m.holds asciiOnly c) != k.negated

end Regex

end TestSkeleton
