set_option autoImplicit false

/-! # Text

A text is a list of characters, so that every reader of the library is a recursion on it. Here are
blank space, line breaks and the cuts that depend on them.

Blank space and line breaks are the Unicode ones and differ from each other: a non-breaking space is
blank but ends no line, and of the four ASCII separators `U+001C` to `U+001F` the last is blank but
ends no line.
-/

namespace TestSkeleton

/-- A text is the list of its characters. -/
abbrev Text := List Char

instance : Coe String Text := ⟨String.toList⟩

namespace Text

/-- The string with these characters. -/
def asString (t : Text) : String := String.ofList t

/-! ## Blank space -/

/-- Characters of blank space. -/
def isBlank (c : Char) : Bool :=
  let n := c.toNat
  (0x09 ≤ n && n ≤ 0x0d) || (0x1c ≤ n && n ≤ 0x20) || n == 0x85 || n == 0xa0 || n == 0x1680
    || (0x2000 ≤ n && n ≤ 0x200a) || n == 0x2028 || n == 0x2029 || n == 0x202f || n == 0x205f
    || n == 0x3000

/-- The text without the characters in `p` that it ends in. -/
def dropEndWhile (p : Char → Bool) (t : Text) : Text := (t.reverse.dropWhile p).reverse

/-- The text without blank space at its start. -/
def stripStart (t : Text) : Text := t.dropWhile isBlank

/-- The text without blank space at its end. -/
def stripEnd (t : Text) : Text := dropEndWhile isBlank t

/-- The text without blank space at either end. -/
def strip (t : Text) : Text := stripEnd (stripStart t)

/-- Whether the text is empty or starts with blank space, so that a word may end before it. -/
def atWordEnd : Text → Bool
  | [] => true
  | c :: _ => isBlank c

/-- The first word of a text and what follows the blank space behind it. -/
def firstWord (t : Text) : Text × Text :=
  let u := stripStart t
  (u.takeWhile (!isBlank ·), stripStart (u.dropWhile (!isBlank ·)))

/-- The words of a text, between blank spaces. -/
def words (t : Text) : List Text :=
  (t.splitBy fun c d => isBlank c == isBlank d).filter fun w => !w.any isBlank

/-! ## Lines -/

/-- Characters that end a line. A carriage return and a line feed behind it end one line
together. -/
def isLineBreak (c : Char) : Bool :=
  let n := c.toNat
  (0x0a ≤ n && n ≤ 0x0d) || (0x1c ≤ n && n ≤ 0x1e) || n == 0x85 || n == 0x2028 || n == 0x2029

/-- The lines of a text without their breaks. A break at the very end starts no further line, so the
empty text has no line at all. -/
def lines : Text → List Text
  | [] => []
  | '\r' :: '\n' :: t => [] :: lines t
  | c :: t =>
    if isLineBreak c then [] :: lines t
    else
      match lines t with
      | [] => [[c]]
      | l :: ls => (c :: l) :: ls

/-- The texts in order, with `sep` between neighbours. -/
def joinWith (sep : Text) (ts : List Text) : Text := sep.intercalate ts

/-- The lines in order, with a line feed between neighbours. -/
def unlines (ls : List Text) : Text := joinWith ['\n'] ls

/-- The pieces of a text between the characters `sep`; there is one more of them than of `sep`. -/
def splitOn (sep : Char) : Text → List Text
  | [] => [[]]
  | c :: t =>
    if c == sep then [] :: splitOn sep t
    else
      match splitOn sep t with
      | [] => [[c]]
      | p :: ps => (c :: p) :: ps

/-- Every carriage return, alone or before a line feed, becomes a line feed. -/
def normalizeNewlines : Text → Text
  | [] => []
  | '\r' :: '\n' :: t => '\n' :: normalizeNewlines t
  | c :: t => (if c == '\r' then '\n' else c) :: normalizeNewlines t

/-! ## Parts of a text -/

/-- What follows `s`, if the text starts with it. -/
def dropPrefix? : Text → Text → Option Text
  | [], t => some t
  | _ :: _, [] => none
  | s :: ss, c :: t => if s == c then dropPrefix? ss t else none

/-- Whether the text starts with `s`. -/
def startsWith (s t : Text) : Bool := (dropPrefix? s t).isSome

/-- What precedes `s`, if the text ends in it. -/
def dropSuffix? (s t : Text) : Option Text := (dropPrefix? s.reverse t.reverse).map List.reverse

/-- Whether the text ends in `s`. -/
def endsWith (s t : Text) : Bool := (dropSuffix? s t).isSome

/-- Whether `s` occurs somewhere in the text. -/
def occursIn (s : Text) : Text → Bool
  | [] => s.isEmpty
  | c :: t => startsWith s (c :: t) || occursIn s t

/-- The text before and behind the first character `sep`, if there is one. -/
def cut? (sep : Char) : Text → Option (Text × Text)
  | [] => none
  | c :: t => if c == sep then some ([], t) else (cut? sep t).map fun r => (c :: r.1, r.2)

/-- The text before and behind the last character `sep`, if there is one. -/
def cutLast? (sep : Char) (t : Text) : Option (Text × Text) :=
  (cut? sep t.reverse).map fun r => (r.2.reverse, r.1.reverse)

/-- The decimal digits of a number. -/
def ofNat (n : Nat) : Text := (Nat.toDigits 10 n)

/-- The decimal digits of a number, with zeros in front up to `width` of them. -/
def padded (width n : Nat) : Text :=
  let d := ofNat n
  List.replicate (width - d.length) '0' ++ d

/-- The decimal digits of an integer, behind a minus sign if it is negative. -/
def ofInt : Int → Text
  | .ofNat n => ofNat n
  | .negSucc n => '-' :: ofNat (n + 1)

/-- The text that has for each byte the character with its number. -/
def ofBytes (bs : List UInt8) : Text := bs.map fun b => Char.ofNat b.toNat

end Text

end TestSkeleton
