import TestSkeleton.Text.Class

set_option autoImplicit false

/-! # Positions in a document

A cursor stands before the rest of a document and knows the line and column where it stands. The
line breaks of documents are a carriage return, a line feed, both together, and three breaks beyond
ASCII.
-/

namespace TestSkeleton.Yaml

/-- Why a document cannot be read. -/
inductive Fault where
  /-- The text is no document, or a document of the wrong kind. -/
  | malformed
  | notANumber
  /-- A number has no digits where its kind is told by the first of them. -/
  | noDigits
  | notABoolean
  | notATimestamp
  | noSuchDate
  /-- An escape stands for no character. -/
  | noSuchCharacter
  /-- An escape stands for a number beyond 31 bits. -/
  | characterOverflow
  /-- An escape stands for half a character, which no text has here. -/
  | halfCharacter
  /-- A whole number has too many digits to be read. -/
  | tooManyDigits
  /-- A power of sixty is beyond all decimal fractions. -/
  | powerOverflow
  /-- A moment is asked of a mapping. -/
  | momentOfMapping
  /-- The nodes are nested too deeply. -/
  | tooDeep
deriving DecidableEq, Repr

/-- Characters that end a line. -/
def isBreak (c : Char) : Bool :=
  c == '\n' || c == '\r' || c.toNat == 0x85 || c.toNat == 0x2028 || c.toNat == 0x2029

/-- Whether a line ends before this character or the end. -/
def endsLine (c : Option Char) : Bool := c.all isBreak

/-- Whether a word ends before this character or the end, if tabs belong to words. -/
def endsField (c : Option Char) : Bool := c.all fun c => c == ' ' || isBreak c

/-- Whether a word ends before this character or the end. -/
def endsWord (c : Option Char) : Bool := c.all fun c => c == ' ' || c == '\t' || isBreak c

/-- Characters of the names of anchors, handles and directives. -/
def isNameChar (c : Char) : Bool :=
  Text.isAsciiLetter c || Text.isAsciiDigit c || c == '-' || c == '_'

/-- Characters that a document may hold. -/
def isAllowed (c : Char) : Bool :=
  let n := c.toNat
  n == 0x09 || n == 0x0a || n == 0x0d || (0x20 ≤ n && n ≤ 0x7e) || n == 0x85
    || (0xa0 ≤ n && n ≤ 0xfffd) || 0x10000 ≤ n

/-- A position in a document. -/
structure Cursor where
  rest : Text
  index : Nat := 0
  line : Nat := 0
  column : Nat := 0

namespace Cursor

/-- The next character. -/
def peek (c : Cursor) : Option Char := c.rest.head?

/-- The character `k` places behind the next one. -/
def peekAt (c : Cursor) (k : Nat) : Option Char := c.rest[k]?

/-- Whether nothing follows. -/
def atEnd (c : Cursor) : Bool := c.rest.isEmpty

/-- The position behind the next character. -/
def next (c : Cursor) : Cursor :=
  match c.rest with
  | [] => c
  | ch :: t =>
    if isBreak ch && !(ch == '\r' && t.head? == some '\n') then ⟨t, c.index + 1, c.line + 1, 0⟩
    else if ch.toNat == 0xfeff then ⟨t, c.index + 1, c.line, c.column⟩
    else ⟨t, c.index + 1, c.line, c.column + 1⟩

/-- The position behind the next `n` characters. -/
def advance : Nat → Cursor → Cursor
  | 0, c => c
  | n + 1, c => advance n c.next

/-- The next characters as long as they are in `p`, and the position behind them. -/
def span (c : Cursor) (p : Char → Bool) : Text × Cursor :=
  let t := c.rest.takeWhile p
  (t, c.advance t.length)

/-- The position behind the next characters in `p`. -/
def skip (c : Cursor) (p : Char → Bool) : Cursor := (c.span p).2

/-- The position behind spaces. -/
def skipSpaces (c : Cursor) : Cursor := c.skip (· == ' ')

/-- The position at the end of the line. -/
def skipLine (c : Cursor) : Cursor := c.skip (!isBreak ·)

/-- A line break, empty if there is none here, and the position behind it. Most breaks become line
feeds. -/
def lineBreak (c : Cursor) : Text × Cursor :=
  match c.rest with
  | '\r' :: '\n' :: _ => (['\n'], c.advance 2)
  | ch :: _ =>
    if ch.toNat == 0x2028 || ch.toNat == 0x2029 then ([ch], c.next)
    else if isBreak ch then (['\n'], c.next)
    else ([], c)
  | [] => ([], c)

/-- Whether the mark of the start or end of a document stands here. -/
def atMark (mark : Text) (c : Cursor) : Bool := Text.startsWith mark c.rest && endsWord (c.peekAt 3)

/-- Whether a document starts or ends here. -/
def atDocumentBoundary (c : Cursor) : Bool := c.atMark "---" || c.atMark "..."

/-- The position behind the rest of a line on which only a comment may follow. -/
def restOfLine (c : Cursor) : Except Fault Cursor :=
  let c := c.skipSpaces
  let c := if c.peek == some '#' then c.skipLine else c
  if endsLine c.peek then .ok c.lineBreak.2 else .error .malformed

end Cursor

end TestSkeleton.Yaml
