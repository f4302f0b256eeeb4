import TestSkeleton.Regex.Basic

set_option autoImplicit false

/-! # Reading patterns

A pattern is one or more alternatives between bars; an alternative is a row of items, each perhaps
with a number of repetitions behind it. A condition on the place cannot be repeated, nor can a
repetition, unless in a group.
-/

namespace TestSkeleton.Regex

open Text

/-- Why a text is not a pattern. -/
inductive PatternFault where
  | malformed
  /-- A number of repetitions beyond the greatest one. -/
  | tooManyRepetitions
deriving DecidableEq, Repr

/-- What is left of a pattern, and its groups so far. -/
structure Progress where
  rest : Text
  /-- The number of groups opened. -/
  opened : Nat := 0
  /-- The groups closed again. -/
  closed : List Nat := []
deriving DecidableEq, Repr

/-- A part of the reader. -/
abbrev Reader := StateT Progress (Except PatternFault)

/-- Fails. -/
def malformed {α : Type} : Reader α := throw .malformed

/-- The next character, which is taken. -/
def take : Reader Char := do
  match (← get).rest with
  | [] => malformed
  | c :: r =>
    modify fun s => { s with rest := r }
    return c

/-- Takes a character if it is the next one. -/
def accept (c : Char) : Reader Bool := do
  if (← get).rest.head? == some c then
    discard take
    return true
  else return false

/-- Takes the next characters as long as they are in `p`, up to `most` of them. -/
def takeWhile (most : Nat) (p : Char → Bool) : Reader Text := do
  let t := ((← get).rest.take most).takeWhile p
  modify fun s => { s with rest := s.rest.drop t.length }
  return t

/-! ## Escapes -/

/-- The number that digits write in a base. -/
def numeral (base : Nat) (digits : Text) : Nat :=
  digits.foldl (fun n d => n * base + (hexValue? d).getD 0) 0

/-- Octal digits. -/
def isOctal (c : Char) : Bool := '0' ≤ c && c ≤ '7'

/-- The characters that a letter behind a backslash stands for. -/
def controls : List (Char × Nat) :=
  [('a', 7), ('f', 12), ('n', 10), ('r', 13), ('t', 9), ('v', 11), ('\\', 92)]

/-- The class that a letter behind a backslash stands for. -/
def namedClass? : Char → Option ClassMember
  | 'd' => some (.named .digit false)
  | 'D' => some (.named .digit true)
  | 'w' => some (.named .word false)
  | 'W' => some (.named .word true)
  | 's' => some (.named .blank false)
  | 'S' => some (.named .blank true)
  | _ => none

/-- The condition that a letter behind a backslash stands for. -/
def anchor? : Char → Option Anchor
  | 'A' => some .start
  | 'Z' => some .lastEnding
  | 'b' => some .wordEdge
  | 'B' => some .noWordEdge
  | _ => none

/-- The code point written with a given number of hexadecimal digits. -/
def hexadecimal (width : Nat) : Reader Nat := do
  let digits ← takeWhile width fun c => (hexValue? c).isSome
  if digits.length == width then return numeral 16 digits else malformed

/-- The code point that the letter or the mark `c` behind a backslash stands for. A pattern for
bytes has no escapes for characters beyond them. -/
def codePoint (forBytes : Bool) (c : Char) : Reader Nat := do
  match controls.lookup c with
  | some n => return n
  | none =>
    if c == 'x' then hexadecimal 2
    else if c == 'u' && !forBytes then hexadecimal 4
    else if c == 'U' && !forBytes then
      let n ← hexadecimal 8
      if n ≤ 0x10ffff then return n else malformed
    else if isAsciiLetter c || isAsciiDigit c then malformed
    else return c.toNat

/-- The code point that octal digits write, if it is one of a byte. -/
def octal (digits : Text) : Reader Nat :=
  let n := numeral 8 digits
  if n ≤ 0xff then return n else malformed

/-- What stands behind a backslash inside a class. -/
def classEscape (forBytes : Bool) : Reader ClassMember := do
  let c ← take
  match namedClass? c with
  | some m => return m
  | none =>
    let n ←
      if c == 'b' then pure 8
      else if isOctal c then octal (c :: (← takeWhile 2 isOctal))
      else codePoint forBytes c
    return .range n n

/-- A reference to a group, which has to be closed already. -/
def referenceTo (n : Nat) : Reader Regex := do
  if (← get).closed.contains n then return .reference n else malformed

/-- What a digit other than zero behind a backslash begins: three octal digits write a code point,
and one or two digits refer to a group. -/
def numberEscape (c : Char) : Reader Regex := do
  match (← get).rest with
  | d :: e :: _ =>
    if isOctal c && isOctal d && isOctal e then
      discard (takeWhile 2 isOctal)
      return .character (.single (← octal [c, d, e]))
    else referenceTo (numeral 10 (c :: (← takeWhile 1 isAsciiDigit)))
  | _ => referenceTo (numeral 10 (c :: (← takeWhile 1 isAsciiDigit)))

/-! ## Classes -/

/-- A character or an escape in a class. -/
def classItem (forBytes : Bool) : Reader ClassMember := do
  let c ← take
  if c == '\\' then classEscape forBytes else return .range c.toNat c.toNat

/-- The range from one member of a class to another. Both have to be characters. -/
def rangeBetween : ClassMember → ClassMember → Reader ClassMember
  | .range low _, .range _ high => if low ≤ high then return .range low high else malformed
  | _, _ => malformed

/-- The members of a class up to its closing bracket, behind `members`. A bracket that comes first
is a member. -/
def classMembers (forBytes : Bool) : Nat → List ClassMember → Reader (List ClassMember)
  | 0, _ => malformed
  | fuel + 1, members => do
    if !members.isEmpty && (← accept ']') then return members
    let m ← classItem forBytes
    if ← accept '-' then
      if ← accept ']' then return members ++ [m, .range 45 45]
      let last ← classItem forBytes
      classMembers forBytes fuel (members ++ [← rangeBetween m last])
    else classMembers forBytes fuel (members ++ [m])

/-- A class behind its opening bracket. -/
def charClass (forBytes : Bool) : Reader CharClass := do
  let negated ← accept '^'
  return ⟨← classMembers forBytes ((← get).rest.length + 1) [], negated⟩

/-! ## Repetitions -/

/-- One more than the greatest number of repetitions. -/
def repetitionLimit : Nat := 4294967295

/-- The number that digits write, if there are any. -/
def bound? (digits : Text) : Reader (Option Nat) :=
  if digits.isEmpty then return none
  else
    let n := numeral 10 digits
    if n < repetitionLimit then return some n else throw .tooManyRepetitions

/-- The numbers of repetitions behind an opening brace. A brace behind which there are none is a
character of its own. -/
def bounds : Reader (Option (Nat × Option Nat)) := do
  let before ← get
  if before.rest.head? == some '\x7d' then return none
  let low ← takeWhile before.rest.length isAsciiDigit
  let high ← if ← accept ',' then takeWhile before.rest.length isAsciiDigit else pure low
  if ← accept '\x7d' then
    let least := (← bound? low).getD 0
    match ← bound? high with
    | some most => if most < least then malformed else return some (least, some most)
    | none => return some (least, none)
  else
    set before
    return none

/-- How many repetitions are tried first. -/
def greed : Reader Greed := do
  if ← accept '?' then return .lazy
  else if ← accept '+' then return .possessive
  else return .greedy

/-! ## Patterns -/

/-- An item of an alternative, whether it can be repeated or not. -/
structure Item where
  pattern : Regex
  canRepeat : Bool := true

/-- A character as an item. -/
def Item.ofChar (c : Char) : Item := ⟨.character (.single c.toNat), true⟩

/-- The items in a row; the last comes first. -/
def inOrder (items : List Item) : Regex :=
  items.foldl (fun r i => match r with
    | .empty => i.pattern
    | _ => .sequence i.pattern r) .empty

/-- Repeats the last item. -/
def repeatLast (low : Nat) (high : Option Nat) : List Item → Reader (List Item)
  | ⟨r, true⟩ :: items => return ⟨.repeated r low high (← greed), false⟩ :: items
  | _ => malformed

/-- What a backslash begins. -/
def escape (forBytes : Bool) : Reader Item := do
  let c ← take
  match namedClass? c, anchor? c with
  | some m, _ => return ⟨.character ⟨[m], false⟩, true⟩
  | _, some a => return ⟨.anchor a, false⟩
  | none, none =>
    if c == '0' then
      return ⟨.character (.single (numeral 8 (← takeWhile 2 isOctal))), true⟩
    else if isAsciiDigit c then return ⟨← numberEscape c, true⟩
    else return ⟨.character (.single (← codePoint forBytes c)), true⟩

/-- The number of a group behind its opening parenthesis, or nothing for one that only holds its
alternatives together. -/
def openGroup : Reader (Option Nat) := do
  if ← accept '?' then
    if ← accept ':' then return none else malformed
  else
    modify fun s => { s with opened := s.opened + 1 }
    return some (← get).opened

/-- Ends a group. -/
def closeGroup (number : Option Nat) (r : Regex) : Reader Item := do
  if !(← accept ')') then malformed
  match number with
  | some n =>
    modify fun s => { s with closed := n :: s.closed }
    return ⟨.group n r, true⟩
  | none => return ⟨r, true⟩

mutual

/-- Alternatives, up to the end or a closing parenthesis. -/
def alternatives (forBytes : Bool) : Nat → Reader Regex
  | 0 => malformed
  | fuel + 1 => do
    let r ← row forBytes fuel []
    if ← accept '|' then return .either r (← alternatives forBytes fuel) else return r

/-- The items of one alternative, behind `items`, of which the last comes first. -/
def row (forBytes : Bool) : Nat → List Item → Reader Regex
  | 0, _ => malformed
  | fuel + 1, items => do
    match (← get).rest.head? with
    | none | some '|' | some ')' => return inOrder items
    | some _ =>
      match ← take with
      | '\\' => row forBytes fuel ((← escape forBytes) :: items)
      | '.' => row forBytes fuel (⟨.character ⟨[.range 10 10], true⟩, true⟩ :: items)
      | '^' => row forBytes fuel (⟨.anchor .start, false⟩ :: items)
      | '$' => row forBytes fuel (⟨.anchor .ending, false⟩ :: items)
      | '[' => row forBytes fuel (⟨.character (← charClass forBytes), true⟩ :: items)
      | '(' =>
        let number ← openGroup
        let r ← alternatives forBytes fuel
        row forBytes fuel ((← closeGroup number r) :: items)
      | '*' => row forBytes fuel (← repeatLast 0 none items)
      | '+' => row forBytes fuel (← repeatLast 1 none items)
      | '?' => row forBytes fuel (← repeatLast 0 (some 1) items)
      | '\x7b' =>
        match ← bounds with
        | some (low, high) => row forBytes fuel (← repeatLast low high items)
        | none => row forBytes fuel (Item.ofChar '\x7b' :: items)
      | c => row forBytes fuel (Item.ofChar c :: items)

end

/-- Reads a pattern. Every step takes a character or leads one level down to a step that does. -/
def ofText (forBytes : Bool) (t : Text) : Except PatternFault Regex := do
  let (r, s) ← (alternatives forBytes (2 * t.length + 2)).run ⟨t, 0, []⟩
  if s.rest.isEmpty then return r else throw .malformed

end TestSkeleton.Regex
