import TestSkeleton.Text.Escaped
import TestSkeleton.Text.Quoted

set_option autoImplicit false

/-! # String literals of templates

A string literal stands in quotation marks, and a backslash in it starts an escape. The text of a
literal is found in two steps: the characters beyond ASCII are written as escapes, and then all
escapes are replaced by what they stand for. So a backslash before such a character escapes only the
backslash of the character's own escape.
-/

namespace TestSkeleton.TemplateLiteral

open Text

/-- What is between the quotation mark `mark` before the text and the next one that has no backslash
before it, and what follows that one. -/
def raw? (mark : Char) : Text → Option (Text × Text)
  | [] => none
  | '\\' :: c :: t => (raw? mark t).map fun r => ('\\' :: c :: r.1, r.2)
  | c :: t => if c == mark then some ([], t) else (raw? mark t).map fun r => (c :: r.1, r.2)

/-- The text with escapes in place of all characters beyond ASCII. -/
def withinAscii (t : Text) : Text :=
  t.flatMap fun c => if c.toNat < 0x80 then [c] else escapeCode c.toNat

/-- Reads a string literal behind its quotation mark: its text and what follows it. -/
def string? (mark : Char) (t : Text) : Option (Text × Text) := do
  let (raw, rest) ← raw? mark t
  return (← (Escaped.read (withinAscii raw)).toOption, rest)

end TestSkeleton.TemplateLiteral
