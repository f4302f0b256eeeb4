import TestSkeleton.Text.Class

set_option autoImplicit false

/-! # Quoted text

A text in quotes, on one line and with nothing invisible in it: line feeds, tabs and unprintable
characters are written as escapes. Single quotes are used unless the text has single quotes and no
double ones. Bytes are quoted in the same way behind a `b`, all beyond ASCII escaped.
-/

namespace TestSkeleton.Text

/-- The quotation mark put around a text. -/
def quoteMark (t : Text) : Char := if t.elem '\'' && !t.elem '"' then '"' else '\''

/-- An unprintable code point as an escape, with as few digits as its size allows. -/
def escapeCode (n : Nat) : Text :=
  if n < 0x100 then '\\' :: 'x' :: hex 2 n
  else if n < 0x10000 then '\\' :: 'u' :: hex 4 n
  else '\\' :: 'U' :: hex 8 n

/-- A character between quotation marks `mark`. -/
def quoteChar (mark c : Char) : Text :=
  if c == mark || c == '\\' then ['\\', c]
  else if c == '\n' then ['\\', 'n']
  else if c == '\r' then ['\\', 'r']
  else if c == '\t' then ['\\', 't']
  else if isPrintable c then [c]
  else escapeCode c.toNat

/-- The text in quotation marks. -/
def quoted (t : Text) : Text :=
  let mark := quoteMark t
  mark :: t.flatMap (quoteChar mark) ++ [mark]

/-- A byte between quotation marks `mark`. -/
def quoteByte (mark : Char) (b : UInt8) : Text :=
  if b.toNat < 0x7f then quoteChar mark (Char.ofNat b.toNat) else escapeCode b.toNat

/-- The bytes in quotation marks. -/
def quotedBytes (bytes : List UInt8) : Text :=
  let mark := quoteMark (bytes.map fun b => Char.ofNat b.toNat)
  'b' :: mark :: bytes.flatMap (quoteByte mark) ++ [mark]

end TestSkeleton.Text
