import TestSkeleton.Text.Basic

set_option autoImplicit false

/-! # Indentation of doc comments

A doc comment is written with the indentation of the code around it. `dedent` removes it: tabs
become spaces up to the next multiple of eight columns, the first line loses its leading blank
space, the other lines lose the blank space that they all share, and empty lines at either end are
dropped.
-/

namespace TestSkeleton.Text

/-- Replaces each tab by spaces up to the next multiple of eight columns. `column` is the number of
characters since the last line feed or carriage return. -/
def expandTabsFrom : Nat → Text → Text
  | _, [] => []
  | column, c :: t =>
    if c == '\t' then
      List.replicate (8 - column % 8) ' ' ++ expandTabsFrom 0 t
    else if c == '\n' || c == '\r' then c :: expandTabsFrom 0 t
    else c :: expandTabsFrom (column + 1) t

/-- The text without tabs. -/
def expandTabs (t : Text) : Text := expandTabsFrom 0 t

/-- The count of blank characters that a line starts with. -/
def indentation (line : Text) : Nat := (line.takeWhile isBlank).length

/-- The least indentation of the lines that are not blank, if there are any. -/
def commonIndentation? (ls : List Text) : Option Nat :=
  ((ls.filter fun l => !l.all isBlank).map indentation).min?

/-- The lines without the empty ones at the start and at the end. -/
def trimEmpty (ls : List Text) : List Text :=
  ((ls.dropWhile List.isEmpty).reverse.dropWhile List.isEmpty).reverse

/-- The doc comment without the indentation of the code around it. -/
def dedent (doc : Text) : Text :=
  match splitOn '\n' (expandTabs doc) with
  | [] => []
  | first :: rest =>
    unlines (trimEmpty (stripStart first :: rest.map (·.drop ((commonIndentation? rest).getD 0))))

end TestSkeleton.Text
