import TestSkeleton.Yaml.Cursor

set_option autoImplicit false

/-! # Scalars of documents

The texts of a document are written plainly, in single or double quotation marks, or as blocks of
lines. Each form has its own rules on how line breaks are folded into spaces.
-/

namespace TestSkeleton.Yaml

open Text

/-! ## Quoted scalars -/

/-- The character that a letter stands for behind a backslash. -/
def escaped? : Char → Option Char
  | '0' => some '\x00'
  | 'a' => some '\x07'
  | 'b' => some '\x08'
  | 't' | '\t' => some '\t'
  | 'n' => some '\n'
  | 'v' => some '\x0b'
  | 'f' => some '\x0c'
  | 'r' => some '\r'
  | 'e' => some '\x1b'
  | ' ' => some ' '
  | '"' => some '"'
  | '\\' => some '\\'
  | '/' => some '/'
  | 'N' => some '\u0085'
  | '_' => some '\u00a0'
  | 'L' => some '\u2028'
  | 'P' => some '\u2029'
  | _ => none

/-- How many digits a letter announces behind a backslash. -/
def escapeLength? : Char → Option Nat
  | 'x' => some 2
  | 'u' => some 4
  | 'U' => some 8
  | _ => none

/-- The character of a hexadecimal number with these digits. Some numbers are of halves of
characters. -/
def charOfHex (digits : Text) : Except Fault Char :=
  match digits.mapM hexValue? with
  | none => .error .malformed
  | some ds =>
    let n := ds.foldl (fun n d => n * 16 + d) 0
    if n.isValidChar then .ok (Char.ofNat n)
    else if n < 0x110000 then .error .halfCharacter
    else if n < 0x80000000 then .error .noSuchCharacter
    else .error .characterOverflow

/-- The further breaks of a quoted scalar behind its first, which no document boundary may
follow. -/
def quotedBreaks : Nat → Cursor → Except Fault (Text × Cursor)
  | 0, c => .ok ([], c)
  | fuel + 1, c =>
    if c.atDocumentBoundary then .error .malformed
    else
      let c := c.skip fun ch => ch == ' ' || ch == '\t'
      match c.lineBreak with
      | ([], _) => .ok ([], c)
      | (b, c') => do
        let (bs, c'') ← quotedBreaks fuel c'
        return (b ++ bs, c'')

/-- The blank part of a quoted scalar: as it is within a line, folded at its end. -/
def quotedBlank (c : Cursor) : Except Fault (Text × Cursor) :=
  let (blanks, c') := c.span fun ch => ch == ' ' || ch == '\t'
  if c'.atEnd then .error .malformed
  else
    match c'.lineBreak with
    | ([], _) => .ok (blanks, c')
    | (b, c'') => do
      let (bs, c''') ← quotedBreaks c''.rest.length c''
      return ((if b != ['\n'] then b else if bs.isEmpty then [' '] else []) ++ bs, c''')

/-- The rest of a quoted scalar up to and with its closing mark. -/
def quotedRest (double : Bool) : Nat → Cursor → Except Fault (Text × Cursor)
  | 0, _ => .error .malformed
  | fuel + 1, c =>
    match c.rest with
    | [] => .error .malformed
    | ch :: t =>
      if ch == ' ' || ch == '\t' || isBreak ch then do
        let (blank, c') ← quotedBlank c
        let (u, c'') ← quotedRest double fuel c'
        return (blank ++ u, c'')
      else if !double && ch == '\'' then
        match t with
        | '\'' :: _ => do
          let (u, c') ← quotedRest double fuel (c.advance 2)
          return ('\'' :: u, c')
        | _ => .ok ([], c.next)
      else if double && ch == '"' then .ok ([], c.next)
      else if double && ch == '\\' then
        match t with
        | [] => .error .malformed
        | e :: digits =>
          match escaped? e, escapeLength? e with
          | some d, _ => do
            let (u, c') ← quotedRest double fuel (c.advance 2)
            return (d :: u, c')
          | none, some k =>
            if digits.length < k then .error .malformed
            else do
              let d ← charOfHex (digits.take k)
              let (u, c') ← quotedRest double fuel (c.advance (2 + k))
              return (d :: u, c')
          | none, none =>
            if isBreak e then do
              let c' := c.next.lineBreak.2
              let (bs, c'') ← quotedBreaks c'.rest.length c'
              let (u, c''') ← quotedRest double fuel c''
              return (bs ++ u, c''')
            else .error .malformed
      else do
        let (u, c') ← quotedRest double fuel c.next
        return (ch :: u, c')

/-- The scalar behind an opening quotation mark, and the position behind its closing one. -/
def quotedScalar (c : Cursor) : Except Fault (Text × Cursor) :=
  quotedRest (c.peek == some '"') c.rest.length c.next

/-! ## Block scalars -/

/-- What a block scalar does with the line breaks at its end. -/
inductive Chomping where
  | strip | clip | keep
deriving DecidableEq, Repr

/-- The indicator of a chomping, clipping if there is none here, and the position behind it. -/
def chomping? (c : Cursor) : Option Chomping × Cursor :=
  match c.peek with
  | some '+' => (some .keep, c.next)
  | some '-' => (some .strip, c.next)
  | _ => (none, c)

/-- The indicator of an indentation, if there is one here, and the position behind it. -/
def increment? (c : Cursor) : Except Fault (Option Nat × Cursor) :=
  match c.peek with
  | some ch =>
    if isAsciiDigit ch then
      if ch == '0' then .error .malformed else .ok (some (ch.toNat - 48), c.next)
    else .ok (none, c)
  | none => .ok (none, c)

/-- The indicators of a block scalar, in either order. -/
def blockIndicators (c : Cursor) : Except Fault (Chomping × Option Nat × Cursor) := do
  let (chomping, increment, c) ← match chomping? c with
    | (some chomping, c) => do
      let (increment, c) ← increment? c
      pure (chomping, increment, c)
    | (none, c) => do
      match ← increment? c with
      | (some increment, c) =>
        let (chomping, c) := chomping? c
        pure (chomping.getD .clip, some increment, c)
      | (none, c) => pure (.clip, none, c)
  if endsField c.peek then return (chomping, increment, c) else .error .malformed

/-- The position behind spaces up to a column. -/
def skipIndentation (column : Nat) (c : Cursor) : Cursor :=
  c.advance (min (column - c.column) (c.rest.takeWhile (· == ' ')).length)

/-- Line breaks with indentation up to a column around them. -/
def blockBreaks (column : Nat) : Nat → Cursor → Text × Cursor
  | 0, c => ([], c)
  | fuel + 1, c =>
    let c := skipIndentation column c
    match c.lineBreak with
    | ([], _) => ([], c)
    | (b, c') =>
      let (bs, c'') := blockBreaks column fuel c'
      (b ++ bs, c'')

/-- The breaks before the first line of a block scalar and the widest indentation found. -/
def blockIndentation : Nat → Nat → Cursor → Text × Nat × Cursor
  | 0, widest, c => ([], widest, c)
  | fuel + 1, widest, c =>
    let c := c.skipSpaces
    let widest := max widest c.column
    match c.lineBreak with
    | ([], _) => ([], widest, c)
    | (b, c') =>
      let (bs, widest, c'') := blockIndentation fuel widest c'
      (b ++ bs, widest, c'')

/-- The lines of a block scalar from column `column` on: their text without what follows the last of
them, the break behind that, the further breaks, and the position behind them. -/
def blockLines (folded : Bool) (column : Nat) : Nat → Text → Cursor → Text × Text × Text × Cursor
  | 0, breaks, c => ([], [], breaks, c)
  | fuel + 1, breaks, c =>
    let isText (ch : Option Char) : Bool := ch != some ' ' && ch != some '\t'
    if c.column == column && !c.atEnd then
      let (line, c') := c.span (!isBreak ·)
      let (b, c') := c'.lineBreak
      let (bs, c') := blockBreaks column c'.rest.length c'
      if c'.column == column && !c'.atEnd then
        let joint :=
          if folded && b == ['\n'] && isText c.peek && isText c'.peek then
            if bs.isEmpty then [' '] else []
          else b
        let (t, last, further, c'') := blockLines folded column fuel bs c'
        (breaks ++ line ++ joint ++ t, last, further, c'')
      else (breaks ++ line, b, bs, c')
    else ([], [], breaks, c)

/-- A block scalar inside a block of column `indent`, from its mark on. -/
def blockScalar (indent : Int) (c : Cursor) : Except Fault (Text × Cursor) := do
  let folded := c.peek == some '>'
  let (chomping, increment, c) ← blockIndicators c.next
  let c ← c.restOfLine
  let least := (max (indent + 1) 1).toNat
  let (breaks, column, c) := match increment with
    | none =>
      let (bs, widest, c) := blockIndentation (c.rest.length + 1) 0 c
      (bs, max least widest, c)
    | some k =>
      let column := least + k - 1
      let (bs, c) := blockBreaks column (c.rest.length + 1) c
      (bs, column, c)
  let (t, last, further, c) := blockLines folded column (c.rest.length + 1) breaks c
  let ending := match chomping with
    | .strip => []
    | .clip => last
    | .keep => last ++ further
  return (t ++ ending, c)

/-! ## Plain scalars -/

/-- What the rest of a plain scalar may be: nothing after a document boundary, else blank text. The
flag says whether a line break was passed. -/
structure PlainGap where
  text : Text
  newLine : Bool
  cursor : Cursor

/-- Line breaks and spaces behind the first line break of a plain scalar; nothing if a document
boundary is met. -/
def plainBreaks : Nat → Cursor → Option Text × Cursor
  | 0, c => (some [], c)
  | fuel + 1, c =>
    let c := c.skipSpaces
    match c.lineBreak with
    | ([], _) => (some [], c)
    | (b, c') =>
      if c'.atDocumentBoundary then (none, c')
      else
        let (bs, c'') := plainBreaks fuel c'
        (bs.map (b ++ ·), c'')

/-- The blank text between two parts of a plain scalar, empty if the scalar ends here. -/
def plainGap (c : Cursor) : PlainGap :=
  let (spaces, c') := c.span (· == ' ')
  match c'.lineBreak with
  | ([], _) => ⟨spaces, false, c'⟩
  | (b, c'') =>
    if c''.atDocumentBoundary then ⟨[], true, c''⟩
    else
      match plainBreaks (c''.rest.length + 1) c'' with
      | (none, c''') => ⟨[], true, c'''⟩
      | (some bs, c''') =>
        ⟨(if b != ['\n'] then b else if bs.isEmpty then [' '] else []) ++ bs, true, c'''⟩

/-- Characters that end a plain scalar inside of brackets. -/
def isFlowEnd (c : Char) : Bool := ",?[]\x7b\x7d".toList.contains c

/-- Characters that end a plain scalar behind a colon inside of brackets. -/
def isFlowIndicator (c : Char) : Bool := ",[]\x7b\x7d".toList.contains c

/-- The length of the part of a plain scalar that a text starts with. -/
def plainLength (inFlow : Bool) : Text → Nat
  | [] => 0
  | c :: t =>
    if endsWord (some c) || (inFlow && isFlowEnd c) then 0
    else if c == ':' && (endsWord t.head? || (inFlow && t.head?.any isFlowIndicator)) then 0
    else plainLength inFlow t + 1

/-- A plain scalar inside a block of column `indent`, whether a line break was passed behind its
last part, and the position behind it. `gap` is the blank text before the next part. -/
def plainScalar (inFlow : Bool) (indent : Int) : Nat → Text → Bool → Cursor → Text × Bool × Cursor
  | 0, _, newLine, c => ([], newLine, c)
  | fuel + 1, gap, newLine, c =>
    let n := if c.peek == some '#' then 0 else plainLength inFlow c.rest
    if n == 0 then ([], newLine, c)
    else
      let part := gap ++ c.rest.take n
      let g := plainGap (c.advance n)
      if g.text.isEmpty || g.cursor.peek == some '#'
          || (!inFlow && (g.cursor.column : Int) < indent + 1) then
        (part, g.newLine, g.cursor)
      else
        let (t, newLine, c') := plainScalar inFlow indent fuel g.text g.newLine g.cursor
        (part ++ t, newLine, c')

end TestSkeleton.Yaml
