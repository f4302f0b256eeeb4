import TestSkeleton.Yaml.Scalar
import TestSkeleton.Number.Reading
import TestSkeleton.Value.Basic

set_option autoImplicit false

/-! # Tokens of documents

A document is cut into indicators and scalars. Indentation yields tokens of its own: one where a
block of deeper indentation starts, and one where it ends. A key of a mapping is only known as such
when its colon is met, on the same line and not too far behind its start, so the places where a key
may have started are remembered; its token is put in afterwards.
-/

namespace TestSkeleton.Yaml

open Text

/-- A token of a document. -/
inductive Token where
  | version (major : Nat)
  | handle (name expansion : Text)
  | otherDirective
  | documentStart
  | documentEnd
  | blockSequenceStart
  | blockMappingStart
  | blockEnd
  | flowSequenceStart
  | flowSequenceEnd
  | flowMappingStart
  | flowMappingEnd
  | flowEntry
  | blockEntry
  | key
  | value
  | reference (name : Text)
  | anchor (name : Text)
  /-- A tag: the name of a handle, if it has one, and what follows it. -/
  | tag (handle : Option Text) (suffix : Text)
  | scalar (plain : Bool) (text : Text)
deriving DecidableEq, Repr

/-- The tokens of a document up to its end or to the fault that stops the reading.

A token that may turn out to start a key is only certain when it is known whether it does. So a
fault also takes away the tokens before it from the first of those on that is not certain yet. -/
structure Tokens where
  tokens : List Token
  fault : Option Fault

/-- A place where a key may have started. -/
structure PossibleKey where
  /-- The count of tokens before it. -/
  position : Nat
  /-- Whether a key has to be here, since nothing else may start in this column. -/
  required : Bool
  index : Nat
  line : Nat
  column : Nat

/-- The state of reading tokens. -/
structure Lexer where
  cursor : Cursor
  /-- The tokens read so far, last one first. -/
  reversed : List Token := []
  /-- The count of tokens read so far. -/
  count : Nat := 0
  /-- How many brackets are open. -/
  flowLevel : Nat := 0
  /-- The column of the innermost block, `-1` outside of all blocks. -/
  indent : Int := -1
  /-- The columns of the blocks around it. -/
  outer : List Int := []
  /-- Whether a key may start here. -/
  keyAllowed : Bool := true
  /-- The places where a key may have started, at most one for each level of brackets. -/
  keys : List (Nat × PossibleKey) := []

namespace Lexer

/-- A step of reading tokens. -/
abbrev Step := Lexer → Except Fault Lexer

/-- The state with one more token. -/
def emit (t : Token) (l : Lexer) : Lexer :=
  { l with reversed := t :: l.reversed, count := l.count + 1 }

/-- The state with a token put in behind the first `position` tokens. -/
def insert (position : Nat) (t : Token) (l : Lexer) : Lexer :=
  { l with
    reversed := l.reversed.insertIdx (l.count - position) t
    count := l.count + 1 }

/-- The state at another position. -/
def moveTo (c : Cursor) (l : Lexer) : Lexer := { l with cursor := c }

/-- Emits a token and goes on behind `n` characters. -/
def take (n : Nat) (t : Token) (l : Lexer) : Lexer := (l.emit t).moveTo (l.cursor.advance n)

/-- Forgets the places that can be no keys any more: those on other lines or too far back. -/
def dropStaleKeys (l : Lexer) : Except Fault Lexer :=
  let isStale (k : PossibleKey) : Bool :=
    k.line != l.cursor.line || 1024 < l.cursor.index - k.index
  if l.keys.any fun k => isStale k.2 && k.2.required then .error .malformed
  else .ok { l with keys := l.keys.filter fun k => !isStale k.2 }

/-- Forgets the place on this level of brackets. -/
def dropKey (l : Lexer) : Except Fault Lexer :=
  match l.keys.lookup l.flowLevel with
  | some k =>
    if k.required then .error .malformed
    else .ok { l with keys := l.keys.filter fun k => k.1 != l.flowLevel }
  | none => .ok l

/-- Remembers that a key may start here. -/
def saveKey (l : Lexer) : Except Fault Lexer :=
  if l.keyAllowed then do
    let c := l.cursor
    let required := l.flowLevel == 0 && l.indent == c.column
    let l ← l.dropKey
    let key := ⟨l.count, required, c.index, c.line, c.column⟩
    return { l with keys := (l.flowLevel, key) :: l.keys }
  else .ok l

/-- Ends the blocks that are indented more than `column`. -/
def endBlocks (column : Int) (l : Lexer) : Lexer :=
  if l.flowLevel != 0 then l else go l.outer l
where
  /-- Ends blocks as long as there are outer ones. -/
  go : List Int → Lexer → Lexer
    | [], l => l
    | i :: is, l =>
      if column < l.indent then go is { l.emit .blockEnd with indent := i, outer := is } else l

/-- Whether a block would start in this column. -/
def startsBlock (column : Nat) (l : Lexer) : Bool := l.indent < column

/-- Starts a block in this column. -/
def startBlock (column : Nat) (l : Lexer) : Lexer :=
  { l with indent := column, outer := l.indent :: l.outer }

/-- Sets whether a key may start here. -/
def allowKey (b : Bool) (l : Lexer) : Lexer := { l with keyAllowed := b }

/-- Goes on to the next token, over spaces, comments and line breaks. -/
def skipToToken : Nat → Lexer → Lexer
  | 0, l => l
  | fuel + 1, l =>
    let c := l.cursor.skipSpaces
    let c := if c.peek == some '#' then c.skipLine else c
    match c.lineBreak with
    | ([], _) => l.moveTo c
    | (_, c') => skipToToken fuel ((if l.flowLevel == 0 then l.allowKey true else l).moveTo c')

/-! ## Tags, names and directives -/

/-- Characters of tags. -/
def isTagChar (c : Char) : Bool :=
  isAsciiLetter c || isAsciiDigit c || "-;/?:@&=+$,_.!~*'()[]%".toList.contains c

/-- The bytes of escapes such as `%2f` at the start of a text, and the text behind them. -/
def escapedBytes : Text → Except Fault (List UInt8 × Text)
  | '%' :: a :: b :: t =>
    match hexValue? a, hexValue? b with
    | some x, some y => do
      let (bytes, rest) ← escapedBytes t
      return (UInt8.ofNat (x * 16 + y) :: bytes, rest)
    | _, _ => .error .malformed
  | '%' :: _ => .error .malformed
  | t => .ok ([], t)

/-- The characters of a tag with their escapes replaced. -/
def unescapeTag : Nat → Text → Except Fault Text
  | 0, _ => .ok []
  | fuel + 1, t =>
    match t with
    | [] => .ok []
    | '%' :: _ => do
      let (bytes, rest) ← escapedBytes t
      match String.fromUTF8? ⟨bytes.toArray⟩ with
      | some s => return s.toList ++ (← unescapeTag fuel rest)
      | none => .error .malformed
    | c :: rest => return c :: (← unescapeTag fuel rest)

/-- The characters of a tag, of which there has to be one, and the position behind them. -/
def tagText (c : Cursor) : Except Fault (Text × Cursor) :=
  match c.span isTagChar with
  | ([], _) => .error .malformed
  | (t, c') => do return (← unescapeTag t.length t, c')

/-- A handle: an exclamation mark, or a name between two. -/
def tagHandle (c : Cursor) : Except Fault (Text × Cursor) :=
  match c.rest with
  | '!' :: t =>
    match t with
    | ' ' :: _ => .ok (['!'], c.next)
    | _ =>
      let name := t.takeWhile isNameChar
      if (t.drop name.length).head? == some '!' then
        .ok ('!' :: name ++ ['!'], c.advance (name.length + 2))
      else .error .malformed
  | _ => .error .malformed

/-- Reads a tag. -/
def readTag (c : Cursor) : Except Fault (Token × Cursor) := do
  let (token, c) ← match c.rest with
    | _ :: '<' :: _ => do
      let (suffix, c') ← tagText (c.advance 2)
      if c'.peek == some '>' then pure (Token.tag none suffix, c'.next) else .error .malformed
    | _ :: t =>
      if endsWord t.head? then pure (.tag none ['!'], c.next)
      else if (t.takeWhile fun ch => ch != ' ' && !isBreak ch).contains '!' then do
        let (handle, c') ← tagHandle c
        let (suffix, c') ← tagText c'
        pure (.tag (some handle) suffix, c')
      else do
        let (suffix, c') ← tagText c.next
        pure (.tag (some ['!']) suffix, c')
    | [] => .error .malformed
  if endsField c.peek then return (token, c) else .error .malformed

/-- Characters that may follow the name of an anchor or alias. -/
def endsName (c : Option Char) : Bool := endsWord c || c.any "?:,]\x7d%@`".toList.contains

/-- The name of an anchor or alias behind its indicator. -/
def readName (c : Cursor) : Except Fault (Text × Cursor) :=
  match c.next.span isNameChar with
  | ([], _) => .error .malformed
  | (name, c') => if endsName c'.peek then .ok (name, c') else .error .malformed

/-- Digits, of which there has to be one, and the position behind them. -/
def readDigits (c : Cursor) : Except Fault (Nat × Cursor) :=
  match c.span isAsciiDigit with
  | ([], _) => .error .malformed
  | (ds, c') =>
    if Number.maxDigits < ds.length then .error .tooManyDigits
    else .ok (ds.foldl (fun n d => n * 10 + (d.toNat - 48)) 0, c')

/-- Reads a directive from its percent sign to the end of its line. -/
def readDirective (c : Cursor) : Except Fault (Token × Cursor) := do
  let (name, c) := c.next.span isNameChar
  if name.isEmpty || !endsField c.peek then .error .malformed
  else
    let (token, c) ←
      if name == "YAML".toList then do
        let (major, c) ← readDigits c.skipSpaces
        if c.peek != some '.' then .error .malformed
        else
          let (_, c) ← readDigits c.next
          if endsField c.peek then pure (Token.version major, c) else .error .malformed
      else if name == "TAG".toList then do
        let (handle, c) ← tagHandle c.skipSpaces
        if c.peek != some ' ' then .error .malformed
        else
          let (expansion, c) ← tagText c.skipSpaces
          if endsField c.peek then pure (.handle handle expansion, c) else .error .malformed
      else pure (.otherDirective, c.skipLine)
    return (token, ← c.restOfLine)

/-! ## Steps -/

/-- Ends all blocks before a directive or a document boundary. -/
def endAll (l : Lexer) : Except Fault Lexer := do
  return (← (l.endBlocks (-1)).dropKey).allowKey false

/-- A bracket that opens. -/
def openFlow (t : Token) : Step := fun l => do
  let l ← l.saveKey
  return ({ l with flowLevel := l.flowLevel + 1 }.allowKey true).take 1 t

/-- A bracket that closes. -/
def closeFlow (t : Token) : Step := fun l => do
  let l ← l.dropKey
  return ({ l with flowLevel := l.flowLevel - 1 }.allowKey false).take 1 t

/-- The comma between entries in brackets. -/
def flowEntry : Step := fun l => do
  return (← (l.allowKey true).dropKey).take 1 .flowEntry

/-- The hyphen before an entry of a block. -/
def blockEntry : Step := fun l => do
  let l ←
    if l.flowLevel != 0 then pure l
    else if !l.keyAllowed then .error .malformed
    else if l.startsBlock l.cursor.column then
      pure ((l.emit .blockSequenceStart).startBlock l.cursor.column)
    else pure l
  return (← (l.allowKey true).dropKey).take 1 .blockEntry

/-- Starts a block mapping before a key or value that has no key saved for it. -/
def startMapping (l : Lexer) : Except Fault Lexer :=
  if l.flowLevel != 0 then .ok l
  else if !l.keyAllowed then .error .malformed
  else if l.startsBlock l.cursor.column then
    .ok ((l.emit .blockMappingStart).startBlock l.cursor.column)
  else .ok l

/-- The question mark before a key. -/
def explicitKey : Step := fun l => do
  let l ← startMapping l
  return (← (l.allowKey (l.flowLevel == 0)).dropKey).take 1 .key

/-- The colon before a value. -/
def value : Step := fun l =>
  match l.keys.lookup l.flowLevel with
  | some k =>
    let l := { l with keys := l.keys.filter fun k => k.1 != l.flowLevel }
    let l := l.insert k.position .key
    let l :=
      if l.flowLevel == 0 && l.startsBlock k.column then
        (l.insert k.position .blockMappingStart).startBlock k.column
      else l
    .ok ((l.allowKey false).take 1 .value)
  | none => do
    let l ← startMapping l
    return (← (l.allowKey (l.flowLevel == 0)).dropKey).take 1 .value

/-- A token that may be a key or start one. -/
def keyLike (read : Cursor → Except Fault (Token × Cursor)) : Step := fun l => do
  let l ← l.saveKey
  let (t, c) ← read l.cursor
  return ((l.allowKey false).emit t).moveTo c

/-- A plain scalar. -/
def plain : Step := fun l => do
  let l ← l.saveKey
  let c := l.cursor
  let (t, newLine, c') := plainScalar (l.flowLevel != 0) l.indent (c.rest.length + 1) [] false c
  return ((l.allowKey newLine).emit (.scalar true t)).moveTo c'

/-- A block scalar. -/
def block : Step := fun l => do
  let l ← (l.allowKey true).dropKey
  let (t, c) ← blockScalar l.indent l.cursor
  return (l.emit (.scalar false t)).moveTo c

/-- Characters that no plain scalar starts with, unless the next character makes it clear. -/
def indicators : Text := "-?:,[]\x7b\x7d#&*!|>'\"%@`"

/-- Whether a plain scalar starts here. -/
def atPlain (l : Lexer) : Bool :=
  match l.cursor.rest with
  | [] => false
  | c :: t =>
    (!endsWord (some c) && !indicators.contains c)
      || (!endsWord t.head? && (c == '-' || (l.flowLevel == 0 && (c == '?' || c == ':'))))

/-- Reads the token that starts here. Nothing may follow a bracket that closes none. -/
def token (l : Lexer) : Except Fault Lexer :=
  let c := l.cursor
  let apart : Bool := endsWord (c.peekAt 1)
  let inFlow : Bool := l.flowLevel != 0
  match c.peek with
  | none => .error .malformed
  | some ch =>
    if ch == '%' && c.column == 0 then do
      let l ← l.endAll
      let (t, c') ← readDirective c
      return (l.emit t).moveTo c'
    else if c.column == 0 && c.atMark "---" then do return (← l.endAll).take 3 .documentStart
    else if c.column == 0 && c.atMark "..." then do return (← l.endAll).take 3 .documentEnd
    else if ch == '[' then openFlow .flowSequenceStart l
    else if ch == '\x7b' then openFlow .flowMappingStart l
    else if ch == ']' then if inFlow then closeFlow .flowSequenceEnd l else .error .malformed
    else if ch == '\x7d' then if inFlow then closeFlow .flowMappingEnd l else .error .malformed
    else if ch == ',' then flowEntry l
    else if ch == '-' && apart then blockEntry l
    else if ch == '?' && (inFlow || apart) then explicitKey l
    else if ch == ':' && (inFlow || apart) then value l
    else if ch == '*' then keyLike (fun c => do let (n, c) ← readName c; return (.reference n, c)) l
    else if ch == '&' then keyLike (fun c => do let (n, c) ← readName c; return (.anchor n, c)) l
    else if ch == '!' then keyLike readTag l
    else if (ch == '|' || ch == '>') && !inFlow then block l
    else if ch == '\'' || ch == '"' then
      keyLike (fun c => do let (t, c) ← quotedScalar c; return (.scalar false t, c)) l
    else if l.atPlain then plain l
    else .error .malformed

/-- Goes on to the next token and ends the blocks before it. -/
def advance (l : Lexer) : Except Fault Lexer := do
  let l ← (skipToToken (l.cursor.rest.length + 1) l).dropStaleKeys
  return l.endBlocks l.cursor.column

/-- The count of tokens before the first one that may turn out to start a key. -/
def certain (l : Lexer) : Nat := l.keys.foldl (fun n k => min n k.2.position) l.count

/-- The tokens if a fault is met in this state. -/
def stopped (f : Fault) (l : Lexer) : Tokens := ⟨l.reversed.reverse.take l.certain, some f⟩

/-- Reads tokens to the end, in as many steps as `fuel`. -/
def run : Nat → Lexer → Tokens
  | 0, l => l.stopped .malformed
  | fuel + 1, l =>
    match l.advance with
    | .error f => l.stopped f
    | .ok l' =>
      if l'.cursor.atEnd then
        match l'.endAll with
        | .error f => l.stopped f
        | .ok l' => ⟨l'.reversed.reverse, none⟩
      else
        match l'.token.bind dropStaleKeys with
        | .error f => l.stopped f
        | .ok l' => run fuel l'

end Lexer

/-- The tokens of a text. A byte order mark at its start is passed over. -/
def Tokens.ofText (t : Text) : Tokens :=
  if !t.all isAllowed then ⟨[], some .malformed⟩
  else
    let c : Cursor := ⟨t, 0, 0, 0⟩
    let c := if c.peek == some '\ufeff' then c.next else c
    Lexer.run (t.length + 1) { cursor := c }

end TestSkeleton.Yaml
