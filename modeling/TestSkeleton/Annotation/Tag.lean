import TestSkeleton.Annotation.Line

set_option autoImplicit false

/-! # Tags

A tag is one use of `@assert` in a doc comment: the mark, lines of preface that say what is
asserted, and the test expression in parentheses. The expression stands on the line of the mark or
on a line of its own behind the preface:

    @assert (2, 3) == 5

    @assert
        Adds two numbers.
        (2, 3) == 5

`extract` finds all tags of a doc comment in order. A mark whose expression is missing, because
another tag or the end of the comment comes first, is an error.
-/

namespace TestSkeleton.Annotation

open Text

/-- One use of `@assert` in a doc comment. -/
structure Tag where
  note : Option Text := none
  /-- Lines that describe the assertion. -/
  preface : List Text := []
  /-- The test expression, from its opening parenthesis on. -/
  expression : Text
  /-- The cleaned lines of the tag. -/
  raw : Text := []
deriving DecidableEq, Repr

/-- What stands between two lines of a preface in a generated method: the line feed, the indentation
of the method's body and the sign of a comment. -/
def prefaceSeparator : Text := "\n        # "

/-- The preface as the text of a comment. -/
def Tag.prefaceText (t : Tag) : Text := strip (joinWith prefaceSeparator t.preface)

/-- Why no tags could be read: a tag ended before its test expression. -/
structure MissingExpression where
  /-- The lines of the tag as far as they were read. -/
  raw : Text
deriving DecidableEq, Repr

/-- The message of the error. -/
def MissingExpression.message (e : MissingExpression) : Text :=
  "No test expression found for @assert tag: `" ++ e.raw ++ "`"

/-- A tag whose expression has not been met yet. -/
structure OpenTag where
  note : Option Text
  preface : List Text
  lines : List Text
deriving DecidableEq, Repr

/-- The open tag of a mark on a line. -/
def Mark.open (m : Mark) (line : Text) : OpenTag :=
  let rest := strip m.rest
  ⟨m.note, if rest.isEmpty then [] else [rest], [line]⟩

/-- The open tag with one more line of preface. An empty line is part of the tag and not of the
preface. -/
def OpenTag.addLine (o : OpenTag) (line : Text) : OpenTag :=
  ⟨o.note, if line.isEmpty then o.preface else o.preface ++ [line], o.lines ++ [line]⟩

/-- The tag that the line of its expression completes. -/
def OpenTag.close (o : OpenTag) (line : Text) : Tag :=
  ⟨o.note, o.preface, line, unlines (o.lines ++ [line])⟩

/-- The error of a tag that nothing completes. -/
def OpenTag.unfinished (o : OpenTag) : MissingExpression := ⟨strip (unlines o.lines)⟩

/-- Reads the tags from cleaned lines, inside the open tag if there is one. -/
def readTags : Option OpenTag → List Text → Except MissingExpression (List Tag)
  | none, [] => .ok []
  | some o, [] => .error o.unfinished
  | none, l :: ls =>
    match Mark.find? l with
    | none => readTags none ls
    | some m =>
      if opensExpression (strip m.rest) then
        (readTags none ls).map (⟨m.note, [], strip m.rest, l⟩ :: ·)
      else readTags (some (m.open l)) ls
  | some o, l :: ls =>
    if opensTag l then .error o.unfinished
    else if opensExpression l then (readTags none ls).map (o.close l :: ·)
    else readTags (some (o.addLine l)) ls

/-- The tags of a doc comment, in order. -/
def extract (doc : Text) : Except MissingExpression (List Tag) := readTags none (cleanLines doc)

end TestSkeleton.Annotation
