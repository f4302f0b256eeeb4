import TestSkeleton.Text.Class
import TestSkeleton.Text.Table.CharacterName

set_option autoImplicit false

/-! # Characters by their names

A character can be asked for by its name, in capital or small letters, or by a second name that it
has. The names are those of the alphabets of Europe, of punctuation, signs, symbols, kana and
pictures.
-/

namespace TestSkeleton.Text.CharacterName

/-- The number of a character, found by the words of its name among entries of the table. `before`
are the words of the name before the first entry, and `next` is the number behind that of its
character. -/
def find? (name : List Text) : List (List Text) → List Text → Nat → Option Nat
  | [], _, _ => none
  | entry :: entries, before, next =>
    let (code, shared) := match entry with
      | ('@' :: digits) :: shared => (numeral 16 digits, shared)
      | shared => (next, shared)
    match shared with
    | [] => find? name entries before code
    | count :: own =>
      let here := before.take (numeral 16 count) ++ own
      if here == name then some code else find? name entries here (code + 1)

/-- A letter of a name as a capital one. -/
def capital (c : Char) : Char := if 'a' ≤ c && c ≤ 'z' then Char.ofNat (c.toNat - 32) else c

/-- The character with a name. -/
def character? (name : Text) : Option Char :=
  let name := name.map capital
  match Table.otherCharacterNames.find? fun e => e.1.toList == name with
  | some e => some (Char.ofNat e.2)
  | none =>
    let entries := (Table.characterNames.splitOn ";").map fun e => words e.toList
    (find? (splitOn ' ' name) entries [] 0).map Char.ofNat

end TestSkeleton.Text.CharacterName
