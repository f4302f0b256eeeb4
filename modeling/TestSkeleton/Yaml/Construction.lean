import TestSkeleton.Yaml.Node
import TestSkeleton.Value.Equality
import TestSkeleton.Value.Part

set_option autoImplicit false

/-! # Values of documents

The value of a node follows from its tag. Mappings may take over the entries of other mappings under
the key `<<`, where their own entries win and of several mappings the first.

Values are made level by level, the scalars of a collection before what is inside of its
collections; so of several faults the one found is the outermost, and on one level the first. Each
node has its value only once, whatever number of aliases it has.
-/

namespace TestSkeleton.Yaml

open Text

/-- Whether the value of a tag is made from further nodes, and so cannot be a key. -/
def Tag.isCollection : Tag → Bool
  | omap | pairs | set | seq | map => true
  | _ => false

/-! ## Scalars -/

/-- The text without underscores, and whether it starts with a minus sign, which is cut off like a
plus sign. -/
def signed (t : Text) : Bool × Text :=
  let u := t.filter (· != '_')
  (u.head? == some '-', Tag.dropSign u)

/-- The parts of a number in base sixty, put together with the operations of the number's kind. -/
def sixties {α : Type} (zero : α) (add : α → Nat → α → α) (parts : List α) : α :=
  (parts.foldr (fun part (value, base) => (add part base value, base * 60)) (zero, 1)).1

/-- How many parts a decimal fraction in base sixty may have, so that their weights are in the
range of such fractions. -/
def maxSixties : Nat := 174

/-- How many digits a text has. -/
def countDigits (t : Text) : Nat := (t.filter fun c => (digitValue? c).isSome).length

/-- Reads a whole number: in base two, sixteen, eight or sixty, as its first characters tell, or
else in base ten. -/
def readInt (t : Text) : Except Fault Int := do
  let (negative, u) := signed t
  let read (base : Nat) (u : Text) : Except Fault Int :=
    if base == 10 && Number.maxDigits < countDigits u then .error .tooManyDigits
    else
      match Number.int? base u with
      | some n => .ok n
      | none => .error .notANumber
  let n ← match u with
    | [] => .error .noDigits
    | ['0'] => pure 0
    | '0' :: 'b' :: ds => read 2 ds
    | '0' :: 'x' :: ds => read 16 ds
    | '0' :: _ => read 8 u
    | _ =>
      if u.contains ':' then do
        let parts ← (splitOn ':' u).mapM (read 10)
        pure (sixties 0 (fun part base value => value + part * base) parts)
      else read 10 u
  return if negative then -n else n

/-- Reads a decimal fraction, in base sixty if it has colons. -/
def readFloat (t : Text) : Except Fault Binary64 := do
  if (t.filter (· != '_')).isEmpty then .error .noDigits
  else
    let (negative, u) := signed (t.map Char.toLower)
    let read (u : Text) : Except Fault Binary64 :=
      match Number.float? u with
      | some x => .ok x
      | none => .error .notANumber
    let x ←
      if u == ".inf".toList then pure (Binary64.infinite false)
      else if u == ".nan".toList then pure .nan
      else if u.contains ':' then do
        let parts ← (splitOn ':' u).mapM read
        if maxSixties < parts.length then .error .powerOverflow
        pure (sixties (Binary64.ofInt 0) (fun part base value => value.add (part.mulNat base))
          parts)
      else read u
    return if negative then x.neg else x

/-- Reads one of the words for true and false. -/
def readBool (t : Text) : Except Fault Bool :=
  let word := t.map Char.toLower
  if (["yes", "true", "on"] : List Text).contains word then .ok true
  else if (["no", "false", "off"] : List Text).contains word then .ok false
  else .error .notABoolean

/-- Reads a date or a moment. -/
def readStamp (t : Text) : Except Fault Value :=
  match Tag.stamp? ((dropSuffix? ['\n'] t).getD t) with
  | some (.date d _) => if d.exists? then .ok (.date d) else .error .noSuchDate
  | some (.moment m) => if m.exists? then .ok (.moment m) else .error .noSuchDate
  | none => .error .notATimestamp

/-- The value of a digit in base sixty-four. -/
def sextet? (c : Char) : Option Nat :=
  if isAsciiUpper c then some (c.toNat - 65)
  else if isAsciiLower c then some (c.toNat - 71)
  else if isAsciiDigit c then some (c.toNat + 4)
  else if c == '+' then some 62
  else if c == '/' then some 63
  else none

/-- The bytes of digits in base sixty-four. `held` are the bits not yet used up, `count` is the
number of digits in the current group of four, and `padding` that of the equals signs behind them.
Padding that completes a group ends the text. Other characters are passed over. -/
def readBase64 (held count padding : Nat) : Text → Except Fault (List UInt8)
  | [] => if count == 0 then .ok [] else .error .malformed
  | c :: t =>
    if c == '=' then
      if 2 ≤ count && 4 ≤ count + padding + 1 then .ok []
      else readBase64 held count (padding + 1) t
    else
      match sextet? c with
      | none => readBase64 held count padding t
      | some d =>
        match count with
        | 0 => readBase64 d 1 0 t
        | 1 => do return UInt8.ofNat (held * 4 + d / 16) :: (← readBase64 (d % 16) 2 0 t)
        | 2 => do return UInt8.ofNat (held * 16 + d / 4) :: (← readBase64 (d % 4) 3 0 t)
        | _ => do return UInt8.ofNat (held * 64 + d) :: (← readBase64 0 0 0 t)

/-- Reads bytes. -/
def readBytes (t : Text) : Except Fault (List UInt8) :=
  if t.all fun c => c.toNat < 0x80 then readBase64 0 0 0 t else .error .malformed

/-- The value of a tag that is made from a text. -/
def ofScalar (tag : Tag) (t : Text) : Except Fault Value :=
  match tag with
  | .null => .ok .none
  | .bool => (readBool t).map .bool
  | .int => (readInt t).map .int
  | .float => (readFloat t).map .float
  | .binary => (readBytes t).map .bytes
  | .timestamp => readStamp t
  | .str => .ok (.str t)
  | _ => .error .malformed

/-! ## Nodes and their values -/

/-- The state of making values. -/
structure Builder where
  nodes : Array Node
  /-- The values of nodes. That of a collection is its number, which is that of the node. -/
  values : Array (Option Value)
  /-- What the collections hold, as far as it is known. -/
  parts : Parts
  /-- The collections of the next level, last one first. -/
  waiting : List Nat := []

namespace Builder

/-- A step of making values. -/
abbrev Build := StateT Builder (Except Fault)

/-- The node of a number. -/
def node (b : Builder) (i : Nat) : Node := b.nodes.getD i ⟨.null, .scalar []⟩

/-- The entries of a mapping. -/
def entries? (b : Builder) (i : Nat) : Option (List (Nat × Nat)) :=
  match (b.node i).content with
  | .mapping es => some es
  | _ => none

/-- The text of a node where a text is needed. A mapping has that of its first entry under the key
`=`, which may in turn be a mapping; `fuel` bounds the count of nodes looked at. -/
def scalarText (b : Builder) : Nat → Nat → Except Fault Text
  | 0, _ => .error .tooDeep
  | fuel + 1, i =>
    match (b.node i).content with
    | .scalar t => .ok t
    | .sequence _ => .error .malformed
    | .mapping es =>
      match es.find? fun e => (b.node e.1).tag = .value with
      | some e => scalarText b fuel e.2
      | none => .error .malformed

/-! ## Merging -/

/-- A key where entries are merged: the key `=` is a text from then on. -/
def settleKey (i : Nat) (b : Builder) : Builder :=
  if (b.node i).tag = .value then
    { b with nodes := b.nodes.setIfInBounds i { b.node i with tag := .str } }
  else b

/-- Sets the entries of a mapping. -/
def setEntries (i : Nat) (es : List (Nat × Nat)) (b : Builder) : Builder :=
  { b with nodes := b.nodes.setIfInBounds i { b.node i with content := .mapping es } }

/-- The entries before the first one under the key `<<`, the value of that, and those behind it. -/
def splitAtMerge (b : Builder) (es : List (Nat × Nat)) :
    Option (List (Nat × Nat) × Nat × List (Nat × Nat)) :=
  match es.span fun e => (b.node e.1).tag != .merge with
  | (before, e :: behind) => some (before, e.2, behind)
  | (_, []) => none

/-- Replaces the entries of a mapping under the key `<<` by the entries that they stand for, with
`taken` in front of all. An entry is gone before what it stands for is looked at, so the count of
such entries bounds the steps, which `fuel` has to exceed. -/
def merge : Nat → Nat → List (Nat × Nat) → Build Unit
  | 0, _, _ => return
  | fuel + 1, i, taken => do
    let b ← get
    let es := (b.entries? i).getD []
    match b.splitAtMerge es with
    | none => set ((es.foldl (fun b e => b.settleKey e.1) b).setEntries i (taken ++ es))
    | some (before, source, behind) =>
      set (b.setEntries i (before ++ behind))
      let entriesOf (j : Nat) : Build (List (Nat × Nat)) := do
        if ((← get).entries? j).isNone then throw .malformed
        merge fuel j []
        return ((← get).entries? j).getD []
      let more ← match (b.node source).content with
        | .mapping _ => entriesOf source
        | .sequence items => do pure (← items.mapM entriesOf).reverse.flatten
        | .scalar _ => throw .malformed
      merge fuel i (taken ++ more)

/-- The count of entries under the key `<<` in all mappings. -/
def mergeCount (b : Builder) : Nat :=
  b.nodes.foldl (fun n node => match node.content with
    | .mapping es => n + es.countP fun e => (b.node e.1).tag == .merge
    | _ => n) 0

/-! ## Making values -/

/-- What stands for a collection inside of itself in a text. -/
def dots : Tag → Text
  | .map => "\x7b...\x7d"
  | _ => "[...]"

/-- The value of a node. What is inside of a collection waits for the next level. -/
def make (i : Nat) : Build Value := do
  let b ← get
  match b.values.getD i none with
  | some v => return v
  | none =>
    let n := b.node i
    if n.tag.isCollection then
      let v := Value.part i (dots n.tag)
      set { b with values := b.values.setIfInBounds i (some v), waiting := i :: b.waiting }
      return v
    else
      let t ← b.scalarText (b.nodes.size + 1) i
      if n.tag = .timestamp && (b.entries? i).isSome then throw .momentOfMapping
      let v ← ofScalar n.tag t
      set { b with values := b.values.setIfInBounds i (some v) }
      return v

/-- The items of a sequence. -/
def items (i : Nat) : Build (List Nat) := do
  match ((← get).node i).content with
  | .sequence items => return items
  | _ => throw .malformed

/-- The only entry of a mapping as a pair. -/
def makePair (i : Nat) : Build Value := do
  match (← get).entries? i with
  | some [e] => return .tuple [← make e.1, ← make e.2]
  | _ => throw .malformed

/-- A key of a mapping: its value and the number that tells it from others, since what is no number
equals only itself. The constant for that has one number wherever it is written. -/
structure Key where
  number : Nat
  value : Value

/-- Whether two keys are the same. -/
def Key.isSame (k l : Key) : Bool := k.number == l.number || k.value.equal l.value

/-- The number of a key. -/
def keyNumber (b : Builder) (i : Nat) : Nat :=
  match (b.node i).tag, b.scalarText (b.nodes.size + 1) i with
  | .float, .ok t => if (signed (t.map Char.toLower)).2 == ".nan".toList then b.nodes.size else i
  | _, _ => i

/-- Entries with a new one: in the place of the one with the same key, which stays, or at the
end. -/
def putEntry (k : Key) (v : Value) : List (Key × Value) → List (Key × Value)
  | [] => [(k, v)]
  | e :: es => if k.isSame e.1 then (e.1, v) :: es else e :: putEntry k v es

/-- The entries of a mapping with those taken over in front. A key may be no collection. Of entries
with one key, the last one wins. -/
def makeEntries (i : Nat) : Build (List (Value × Value)) := do
  let b ← get
  if (b.entries? i).isNone then throw .malformed
  merge (b.mergeCount + 1) i []
  let es ← (((← get).entries? i).getD []).mapM fun e => do
    let k ← make e.1
    if ((← get).node e.1).tag.isCollection then throw .malformed
    let v ← make e.2
    return (Key.mk ((← get).keyNumber e.1) k, v)
  return (es.foldl (fun kept e => putEntry e.1 e.2 kept) []).map fun e => (e.1.value, e.2)

/-- Makes what is inside of a collection. -/
def fill (i : Nat) : Build Unit := do
  let v ← match ((← get).node i).tag with
    | .map => do pure (Value.dict (← makeEntries i))
    | .set => do pure (.set ((← makeEntries i).map Prod.fst))
    | .omap | .pairs => do pure (.list (← (← items i).mapM makePair))
    | _ => do pure (.list (← (← items i).mapM make))
  modify fun b => { b with parts := b.parts.setIfInBounds i v }

/-- Makes what is inside of the waiting collections, level by level. -/
def fillLevels : Nat → Build Unit
  | 0 => return
  | fuel + 1 => do
    match (← get).waiting with
    | [] => return
    | is =>
      modify fun b => { b with waiting := [] }
      is.reverse.forM fill
      fillLevels fuel

end Builder

/-- The value of a document, and what its collections hold. -/
structure Document where
  value : Value
  parts : Parts

/-- The value of the document with these nodes. -/
def Graph.document (g : Graph) : Except Fault Document := do
  let b : Builder := ⟨g.nodes, g.nodes.map fun _ => none, g.nodes.map fun _ => .none, []⟩
  let (v, b) ← (do
    let v ← Builder.make g.root
    Builder.fillLevels (g.nodes.size + 1)
    return v : Builder.Build Value).run b
  return ⟨v, b.parts⟩

/-- The value of the only document in a text, if there is a document. -/
def Document.ofText? (t : Text) : Except Fault (Option Document) := do
  match ← Graph.ofText? t with
  | none => return none
  | some g => return some (← g.document)

end TestSkeleton.Yaml
