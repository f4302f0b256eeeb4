import TestSkeleton.Template.Literal

set_option autoImplicit false

/-! # Tokens of templates

The text of a template outside of its marks, and the words, literals and signs between `\x7b\x7b`
and `\x7d\x7d` or between `\x7b%` and `%\x7d`. Comments, and the marks that keep a part of the text
as it is, yield no tokens of their own.

White space around marks is dealt with here. A minus sign at a mark drops all white space on its
side. Otherwise a tag or comment that is alone before its line's end takes the blanks before it and
the line feed behind it along; a plus sign prevents this.
-/

namespace TestSkeleton

open Text

/-- A token of a template. -/
inductive TemplateToken where
  | text (t : Text)
  | valueOpen
  | valueClose
  | tagOpen
  | tagClose
  | word (w : Text)
  | string (t : Text)
  | number (n : Nat)
  | sign (c : Char)
deriving DecidableEq, Repr

namespace TemplateToken

/-- What a mark does to the white space on one of its sides. -/
inductive Trim where
  | usual | all | nothing
deriving DecidableEq, Repr

/-- The sign at an opening mark and what follows. -/
def openingTrim : Text → Trim × Text
  | '-' :: t => (.all, t)
  | '+' :: t => (.nothing, t)
  | t => (.usual, t)

/-- Text before an opening mark. `lineStart` says whether it starts a line; `isValue`, whether the
mark opens a value, before which blanks stay. -/
def trimBefore (lineStart isValue : Bool) (trim : Trim) (t : Text) : Text :=
  match trim with
  | .all => stripEnd t
  | .nothing => t
  | .usual =>
    if isValue then t
    else
      -- the blanks between the last line feed, or the start of the line, and the mark
      let kept := dropEndWhile (fun c => isBlank c && c != '\n') t
      match kept.getLast? with
      | some c => if c == '\n' then kept else t
      | none => if lineStart then [] else t

/-- What follows a closing mark behind its sign: without white space, or without a line feed if the
mark takes one along. -/
def trimAfter (trim : Trim) (takesLine : Bool) (t : Text) : Text :=
  match trim with
  | .all => stripStart t
  | .nothing => t
  | .usual =>
    match t with
    | '\n' :: u => if takesLine then u else t
    | _ => t

/-- Whether the text from `t` to its end `rest` ends in a line feed, so that `rest` starts a
line. -/
def endsLine (t rest : Text) : Bool := (t.take (t.length - rest.length)).getLast? == some '\n'

/-- What follows the mark `mark` with a sign before it, if it stands here. `signs` are the signs it
may have. -/
def closing? (mark : Text) (plus takesLine : Bool) (t : Text) : Option Text :=
  match t with
  | '-' :: u => (dropPrefix? mark u).map (trimAfter .all takesLine)
  | '+' :: u => if plus then (dropPrefix? mark u).map (trimAfter .nothing takesLine) else none
  | _ => (dropPrefix? mark t).map (trimAfter .usual takesLine)

/-- The mark that closes a tag. -/
def tagEnd : Text := ['%', '\x7d']

/-- The mark that closes a value. -/
def valueEnd : Text := ['\x7d', '\x7d']

/-- The mark that closes a comment. -/
def commentEnd : Text := ['#', '\x7d']

/-- The text behind the comment in which it starts, if the comment is closed. -/
def skipComment? : Text → Option Text
  | [] => none
  | c :: t => (closing? commentEnd true true (c :: t)).orElse fun _ => skipComment? t

/-- Reads the tag `raw` behind its opening mark and sign. -/
def rawOpening? (t : Text) : Option Text := do
  let u ← dropPrefix? "raw" (stripStart t)
  closing? tagEnd false false (stripStart u)

/-- Reads the tag `endraw`: the sign at its start and what follows it. -/
def rawClosing? (t : Text) : Option (Trim × Text) := do
  let (trim, u) := openingTrim (← dropPrefix? ['\x7b', '%'] t)
  let u ← dropPrefix? "endraw" (stripStart u)
  return (trim, ← closing? tagEnd true true (stripStart u))

/-- The text up to the tag `endraw`, the sign at the tag and what follows it. -/
def splitRaw? : Text → Option (Text × Trim × Text)
  | [] => none
  | c :: t =>
    match rawClosing? (c :: t) with
    | some (trim, rest) => some ([], trim, rest)
    | none => (splitRaw? t).map fun r => (c :: r.1, r.2)

/-- What an opening mark opens. -/
inductive Opening where
  | value | tag | comment
deriving DecidableEq, Repr

/-- Reads an opening mark. -/
def opening? : Text → Option (Opening × Text)
  | '\x7b' :: '\x7b' :: t => some (.value, t)
  | '\x7b' :: '%' :: t => some (.tag, t)
  | '\x7b' :: '#' :: t => some (.comment, t)
  | _ => none

/-- The text before the first opening mark, and the mark with what follows it. -/
def splitOpening : Text → Text × Option (Opening × Text)
  | [] => ([], none)
  | c :: t =>
    match opening? (c :: t) with
    | some o => ([], some o)
    | none =>
      let (before, o) := splitOpening t
      (c :: before, o)

/-! ## Inside marks -/

/-- The number with these digits. -/
def digits (t : Text) : Nat := t.foldl (fun n c => n * 10 + (digitValue? c).getD 0) 0

/-- Reads one token inside of marks, at a character that is not blank. -/
def inner? : Text → Option (TemplateToken × Text)
  | [] => none
  | c :: t =>
    if c == '"' || c == '\'' then (TemplateLiteral.string? c t).map fun r => (string r.1, r.2)
    else if isAsciiDigit c then
      let ds := (c :: t).takeWhile isAsciiDigit
      if c == '0' && ds.any (· != '0') then none
      else some (number (digits ds), (c :: t).dropWhile isAsciiDigit)
    else if isNameChar c then
      let w := (c :: t).takeWhile isNameChar
      if isName w then some (word w, (c :: t).dropWhile isNameChar) else none
    else some (sign c, t)

/-- Whether the tokens read so far are between the marks of a value or of a tag, or outside. -/
inductive Place where
  | outside (lineStart : Bool) | value | tag
deriving DecidableEq, Repr

/-- The tokens of a template, from a place on. A comment or a raw part without an end is an error
unless nothing at all follows its opening mark. Each step uses up a character or leaves a mark, so
that twice as many steps as characters suffice. -/
def scan : Nat → Place → Text → Option (List TemplateToken)
  | 0, _, _ => none
  | fuel + 1, .outside lineStart, t =>
    match splitOpening t with
    | (before, none) => some (if before.isEmpty then [] else [text before])
    | (before, some (opening, rest)) =>
      let (trim, inside) := openingTrim rest
      let kept := text (trimBefore lineStart (opening == .value) trim before)
      match opening with
      | .value => (scan fuel .value inside).map fun ts => kept :: valueOpen :: ts
      | .comment =>
        if inside.isEmpty then some [kept]
        else
          match skipComment? inside with
          | none => none
          | some after => (scan fuel (.outside (endsLine inside after)) after).map (kept :: ·)
      | .tag =>
        match rawOpening? inside with
        | none => (scan fuel .tag inside).map fun ts => kept :: tagOpen :: ts
        | some body =>
          if body.isEmpty then some [kept]
          else
            match splitRaw? body with
            | none => none
            | some (raw, trim, after) =>
              let rawText := text (trimBefore (endsLine inside body) false trim raw)
              (scan fuel (.outside (endsLine body after)) after).map fun ts => kept :: rawText :: ts
  | fuel + 1, .value, t =>
    let u := stripStart t
    match closing? valueEnd false false u with
    | some after => (scan fuel (.outside (endsLine u after)) after).map (valueClose :: ·)
    | none => match inner? u with
      | some (token, rest) => (scan fuel .value rest).map (token :: ·)
      | none => if u.isEmpty then some [] else none
  | fuel + 1, .tag, t =>
    let u := stripStart t
    match closing? tagEnd true true u with
    | some after => (scan fuel (.outside (endsLine u after)) after).map (tagClose :: ·)
    | none => match inner? u with
      | some (token, rest) => (scan fuel .tag rest).map (token :: ·)
      | none => if u.isEmpty then some [] else none

/-- The tokens of a template, if all of its marks and literals are closed. -/
def ofText? (t : Text) : Option (List TemplateToken) :=
  let source := normalizeNewlines t
  scan (2 * source.length + 1) (.outside true) source

end TemplateToken

end TestSkeleton
