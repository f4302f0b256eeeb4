import TestSkeleton.Text.Basic

set_option autoImplicit false

/-! # Lines of a doc comment

A doc comment is read line by line. A cleaned line carries neither the decoration of a comment block
(`/**`, a column of stars, `*/`) nor blank space at its ends. A line may hold a *mark*: the word
`@assert`, alone or with a note as in `@assert-slow`.
-/

namespace TestSkeleton.Annotation

open Text

/-! ## Cleaned lines -/

/-- The line without comment decoration and surrounding blank space. -/
def cleanLine (line : Text) : Text :=
  let t := strip line
  let t := (dropPrefix? "/**" t).getD t
  let t := (dropSuffix? "*/" t).getD t
  strip (t.dropWhile (· == '*'))

/-- The cleaned lines of a doc comment. -/
def cleanLines (doc : Text) : List Text := (lines doc).map cleanLine

/-! ## Marks -/

/-- The word that announces an assertion. -/
def keyword : Text := "@assert"

/-- Characters of a note. -/
def isNoteChar (c : Char) : Bool :=
  ('a' ≤ c && c ≤ 'z') || ('0' ≤ c && c ≤ '9') || c == '_' || c == '-'

/-- A mark found on a line: its note and the text behind it. -/
structure Mark where
  note : Option Text
  rest : Text
deriving DecidableEq, Repr

/-- Reads a mark at the start of a text. The mark ends at blank space or at the end of the line. -/
def Mark.read? (t : Text) : Option Mark :=
  match dropPrefix? keyword t with
  | none => none
  | some u =>
    if atWordEnd u then some ⟨none, u⟩
    else
      match u with
      | '-' :: v =>
        let note := v.takeWhile isNoteChar
        let rest := v.dropWhile isNoteChar
        if !note.isEmpty && atWordEnd rest then some ⟨some note, rest⟩ else none
      | _ => none

/-- Looks for the first mark that starts a word. The flag tells whether a word may start here. -/
def Mark.findFrom? : Bool → Text → Option Mark
  | _, [] => none
  | true, c :: t => (Mark.read? (c :: t)).orElse fun _ => Mark.findFrom? (isBlank c) t
  | false, c :: t => Mark.findFrom? (isBlank c) t

/-- The first mark on a line, if there is one. -/
def Mark.find? (line : Text) : Option Mark := Mark.findFrom? true line

/-- Whether a test expression starts at the beginning of a text. -/
def opensExpression (t : Text) : Bool := t.head? == some '('

/-- Whether another tag starts at the beginning of a line. -/
def opensTag (line : Text) : Bool := line.head? == some '@'

end TestSkeleton.Annotation
