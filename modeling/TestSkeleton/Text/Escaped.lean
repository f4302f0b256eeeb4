import TestSkeleton.Text.CharacterName

set_option autoImplicit false

/-! # Escapes

A backslash in a text that is written in a program starts an escape, which stands for a character or
for nothing. A backslash before a character that has no such meaning stays as it is.

The characters beyond ASCII are written as escapes themselves before the escapes are read, so that a
fault is told by its place among the escapes.
-/

namespace TestSkeleton.Text.Escaped

/-- The character that a letter stands for behind a backslash. -/
def letter? : Char → Option Char
  | 'n' => some '\n'
  | 't' => some '\t'
  | 'r' => some '\r'
  | 'a' => some '\x07'
  | 'b' => some '\x08'
  | 'f' => some '\x0c'
  | 'v' => some '\x0b'
  | '\\' => some '\\'
  | '\'' => some '\''
  | '"' => some '"'
  | _ => none

/-- How many hexadecimal digits a letter announces behind a backslash. -/
def hexWidth? : Char → Option Nat
  | 'x' => some 2
  | 'u' => some 4
  | 'U' => some 8
  | _ => none

/-- Octal digits. -/
def isOctalDigit (c : Char) : Bool := '0' ≤ c && c ≤ '7'

/-- What is wrong with an escape. -/
inductive Flaw where
  /-- There are fewer digits than this letter announces. -/
  | truncated (letter : Char)
  | noSuchCharacter
  | malformedName
  | unknownName
deriving DecidableEq, Repr

/-- An escape that stands for nothing: where it starts, where it breaks off, and why. -/
structure Fault where
  first : Nat
  last : Nat
  flaw : Flaw
deriving DecidableEq, Repr

/-- The flaw in words. -/
def Flaw.message : Flaw → Text
  | truncated letter =>
    "truncated \\" ++ letter :: List.replicate ((hexWidth? letter).getD 0) 'X' ++ " escape".toList
  | noSuchCharacter => "illegal Unicode character"
  | malformedName => "malformed \\N character escape"
  | unknownName => "unknown Unicode character name"

/-- The fault in words. -/
def Fault.message (f : Fault) : Text :=
  "'unicodeescape' codec can't decode bytes in position " ++ ofNat f.first ++ '-' :: ofNat f.last
    ++ ": ".toList ++ f.flaw.message

/-- An escape by a number behind its letter, and what follows it. -/
def coded (letter : Char) (width : Nat) (t : Text) : Except (Nat × Flaw) (Text × Text) :=
  let digits := (t.take width).takeWhile fun c => (hexValue? c).isSome
  let n := numeral 16 digits
  if digits.length < width then .error (digits.length, .truncated letter)
  else if n.isValidChar then .ok ([Char.ofNat n], t.drop width)
  else .error (width, .noSuchCharacter)

/-- An escape by a name in braces behind its letter, and what follows it. -/
def named : Text → Except (Nat × Flaw) (Text × Text)
  | '{' :: t =>
    let name := t.takeWhile (· != '}')
    if name.length == t.length then .error (name.length + 1, .malformedName)
    else if name.isEmpty then .error (1, .malformedName)
    else
      match CharacterName.character? name with
      | some c => .ok ([c], t.drop (name.length + 1))
      | none => .error (name.length + 2, .unknownName)
  | _ => .error (0, .malformedName)

/-- What an escape stands for, read behind its backslash, and what follows it; or its flaw, and how
many characters behind the letter belong to it. A line feed stands for nothing. -/
def escape : Text → Except (Nat × Flaw) (Text × Text)
  | [] => .ok (['\\'], [])
  | '\n' :: t => .ok ([], t)
  | 'N' :: t => named t
  | c :: t =>
    if isOctalDigit c then
      let digits := ((c :: t).take 3).takeWhile isOctalDigit
      .ok ([Char.ofNat (numeral 8 digits)], (c :: t).drop digits.length)
    else
      match hexWidth? c, letter? c with
      | some width, _ => coded c width t
      | none, some d => .ok ([d], t)
      | none, none => .ok (['\\', c], t)

/-- Replaces escapes by what they stand for, behind as many characters as `place`, in as many steps
as `fuel`. -/
def readFrom : Nat → Nat → Text → Except Fault Text
  | 0, _, _ | _, _, [] => .ok []
  | fuel + 1, place, '\\' :: t =>
    match escape t with
    | .error (count, flaw) => .error ⟨place, place + 1 + count, flaw⟩
    | .ok (meaning, rest) =>
      (readFrom fuel (place + 1 + (t.length - rest.length)) rest).map (meaning ++ ·)
  | fuel + 1, place, c :: t => (readFrom fuel (place + 1) t).map (c :: ·)

/-- The text with escapes replaced by what they stand for. Each step takes a character at least. -/
def read (t : Text) : Except Fault Text := readFrom t.length 0 t

/-- A character, as an escape if it is beyond ASCII. -/
def withinAscii (c : Char) : Text :=
  if c.toNat < 0x80 then [c] else '\\' :: 'U' :: hex 8 c.toNat

/-- The text with escapes in place of all characters beyond ASCII, and of a backslash before such a
character. -/
def escapeAll : Text → Text
  | [] => []
  | '\\' :: c :: t =>
    if c.toNat < 0x80 then '\\' :: c :: escapeAll t
    else "\\u005c" ++ withinAscii c ++ escapeAll t
  | c :: t => withinAscii c ++ escapeAll t

/-- What a text stands for that is written in a program. -/
def meaning (t : Text) : Except Fault Text :=
  if t.contains '\\' then read (escapeAll t) else .ok t

end TestSkeleton.Text.Escaped
