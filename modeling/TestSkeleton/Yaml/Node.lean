import TestSkeleton.Yaml.Token
import TestSkeleton.Yaml.Tag

set_option autoImplicit false

/-! # Nodes of documents

A document is one node: a scalar, a sequence of nodes or a mapping of nodes to nodes. A node may
have an anchor, and an alias is the node with its anchor. So a node can be in several places, even
inside of itself, and what a collection holds are the numbers of its nodes.
-/

namespace TestSkeleton.Yaml

open Text

/-- What a node is made of. -/
inductive Content where
  | scalar (text : Text)
  | sequence (items : List Nat)
  | mapping (entries : List (Nat × Nat))

/-- A node of a document. -/
structure Node where
  tag : Tag
  content : Content

/-- The nodes of a document by their numbers, and the number of the one that is the document. -/
structure Graph where
  nodes : Array Node
  root : Nat

/-- How many collections may be around a node. -/
def maxDepth : Nat := 485

/-- The state of reading nodes. -/
structure NodeReader where
  tokens : List Token
  /-- What happens behind the last token. -/
  fault : Option Fault
  /-- The handles of tags with what they stand for. -/
  handles : List (Text × Text) := []
  /-- The nodes read so far. A collection is among them before it is read to its end. -/
  nodes : Array Node := #[]
  /-- The numbers of the nodes with anchors. -/
  anchors : List (Text × Nat) := []
  /-- How many collections are around the next node. -/
  depth : Nat := 0

namespace NodeReader

/-- A step of reading nodes. -/
abbrev Read := StateT NodeReader (Except Fault)

/-- The next token, if there is one. -/
def peek : Read (Option Token) := do
  let s ← get
  match s.tokens with
  | t :: _ => return some t
  | [] => match s.fault with
    | some f => throw f
    | none => return none

/-- Goes on behind the next token. -/
def next : Read Unit := modify fun s => { s with tokens := s.tokens.tail }

/-- Whether the next token is one of these. -/
def at? (ts : List Token) : Read Bool := do
  match ← peek with
  | some t => return ts.contains t
  | none => return false

/-- Goes on behind the next token if it is this one. -/
def accept (t : Token) : Read Bool := do
  if ← at? [t] then
    next
    return true
  else return false

/-- Goes on behind the next token, which has to be this one. -/
def expect (t : Token) : Read Unit := do
  if !(← accept t) then throw .malformed

/-- Adds a node and yields its number. -/
def add (n : Node) : Read Nat := do
  let s ← get
  set { s with nodes := s.nodes.push n }
  return s.nodes.size

/-- Sets what the node of a number is made of. -/
def fill (i : Nat) (n : Node) : Read Unit :=
  modify fun s => { s with nodes := s.nodes.setIfInBounds i n }

/-- Adds a node that is not written out. -/
def emptyNode : Read Nat := add ⟨.null, .scalar []⟩

/-! ## Properties -/

/-- The anchor and the tag before a node. -/
structure Properties where
  anchor : Option Text := none
  tag : Option Text := none

/-- The tag of a handle and a suffix. -/
def expandTag (handle : Option Text) (suffix : Text) : Read Text := do
  match handle with
  | none => return suffix
  | some h => match (← get).handles.lookup h with
    | some expansion => return expansion ++ suffix
    | none => throw .malformed

/-- The tag at this place, if there is one. -/
def readTag? : Read (Option (Option Text × Text)) := do
  match ← peek with
  | some (.tag h s) => next; return some (h, s)
  | _ => return none

/-- The anchor at this place, if there is one. -/
def readAnchor? : Read (Option Text) := do
  match ← peek with
  | some (.anchor a) => next; return some a
  | _ => return none

/-- The anchor and the tag at this place, in either order. -/
def readProperties : Read Properties := do
  match ← readAnchor? with
  | some a =>
    match ← readTag? with
    | some (h, s) => return ⟨some a, some (← expandTag h s)⟩
    | none => return ⟨some a, none⟩
  | none =>
    match ← readTag? with
    | some (h, s) =>
      let a ← readAnchor?
      return ⟨a, some (← expandTag h s)⟩
    | none => return ⟨none, none⟩

/-- The tag, unless it is missing or left to the form of the node. -/
def Properties.ownTag (p : Properties) : Option Tag :=
  match p.tag with
  | none | some ['!'] => none
  | some t => some (Tag.ofText t)

/-- The tag of a scalar. -/
def Properties.scalarTag (p : Properties) (plain : Bool) (text : Text) : Tag :=
  match p.tag with
  | none => if plain then Tag.ofPlain text else .str
  | some ['!'] => Tag.ofPlain text
  | some t => Tag.ofText t

/-- Refuses an anchor that is there already. -/
def checkAnchor (p : Properties) : Read Unit := do
  match p.anchor with
  | some a => if ((← get).anchors.lookup a).isSome then throw .malformed
  | none => return

/-- Sets the node that an anchor stands for. -/
def setAnchor (p : Properties) (i : Nat) : Read Unit := do
  match p.anchor with
  | some a => modify fun s => { s with anchors := (a, i) :: s.anchors }
  | none => return

/-- Reads a collection behind its properties. -/
def readCollection (p : Properties) (usual : Tag) (read : Read Content) : Read Nat := do
  checkAnchor p
  let tag := p.ownTag.getD usual
  let i ← add ⟨tag, .sequence []⟩
  setAnchor p i
  let depth := (← get).depth
  if maxDepth ≤ depth then throw .tooDeep
  modify fun s => { s with depth := depth + 1 }
  let content ← read
  modify fun s => { s with depth := depth }
  fill i ⟨tag, content⟩
  return i

/-- Reads a scalar behind its properties. -/
def readScalar (p : Properties) (plain : Bool) (text : Text) : Read Nat := do
  checkAnchor p
  let i ← add ⟨p.scalarTag plain text, .scalar text⟩
  setAnchor p i
  return i

/-! ## Collections -/

/-- The tokens that may not start a node where an entry ends. -/
def entryEnds : List Token := [.blockEntry, .key, .value, .blockEnd]

/-- The places where a node may stand. -/
inductive Place where
  /-- In brackets. -/
  | flow
  | block
  /-- As the value of a block mapping, where the hyphens of a sequence need no indentation. -/
  | blockValue
deriving DecidableEq, Repr

mutual

/-- Reads a node, in as many nested steps as `fuel`. -/
def readNode (place : Place) : Nat → Read Nat
  | 0 => throw .malformed
  | fuel + 1 => do
    match ← peek with
    | some (.reference name) =>
      next
      match (← get).anchors.lookup name with
      | some i => return i
      | none => throw .malformed
    | _ =>
      let p ← readProperties
      let sequence (read : Read (List Nat)) : Read Nat :=
        readCollection p .seq (Content.sequence <$> read)
      let mapping (read : Read (List (Nat × Nat))) : Read Nat :=
        readCollection p .map (Content.mapping <$> read)
      match ← peek, place with
      | some .blockEntry, .blockValue => sequence (readIndentless fuel)
      | some (.scalar plain text), _ => next; readScalar p plain text
      | some .flowSequenceStart, _ => next; sequence (readFlowItems true fuel)
      | some .flowMappingStart, _ => next; mapping (readFlowEntries true fuel)
      | some .blockSequenceStart, .block | some .blockSequenceStart, .blockValue =>
        next; sequence (readBlockItems fuel)
      | some .blockMappingStart, .block | some .blockMappingStart, .blockValue =>
        next; mapping (readBlockEntries fuel)
      | _, _ =>
        if p.anchor.isSome || p.tag.isSome then readScalar p true [] else throw .malformed

/-- Reads the items of a block sequence up to the end of the block. -/
def readBlockItems : Nat → Read (List Nat)
  | 0 => throw .malformed
  | fuel + 1 => do
    if ← accept .blockEntry then
      let n ← if ← at? [.blockEntry, .blockEnd] then emptyNode else readNode .block fuel
      return n :: (← readBlockItems fuel)
    else
      expect .blockEnd
      return []

/-- Reads the items of a block sequence that has no block of its own. -/
def readIndentless : Nat → Read (List Nat)
  | 0 => throw .malformed
  | fuel + 1 => do
    if ← accept .blockEntry then
      let n ← if ← at? entryEnds then emptyNode else readNode .block fuel
      return n :: (← readIndentless fuel)
    else return []

/-- Reads the entries of a block mapping up to the end of the block. -/
def readBlockEntries : Nat → Read (List (Nat × Nat))
  | 0 => throw .malformed
  | fuel + 1 => do
    let ends : List Token := [.key, .value, .blockEnd]
    if ← accept .key then
      let k ← if ← at? ends then emptyNode else readNode .blockValue fuel
      let v ←
        if ← accept .value then
          if ← at? ends then emptyNode else readNode .blockValue fuel
        else emptyNode
      return (k, v) :: (← readBlockEntries fuel)
    else
      expect .blockEnd
      return []

/-- Reads the items of a sequence in brackets up to the closing one. -/
def readFlowItems (first : Bool) : Nat → Read (List Nat)
  | 0 => throw .malformed
  | fuel + 1 => do
    if ← accept .flowSequenceEnd then return []
    if !first then expect .flowEntry
    if ← accept .key then
      let k ←
        if ← at? [.value, .flowEntry, .flowSequenceEnd] then emptyNode else readNode .flow fuel
      let v ←
        if ← accept .value then
          if ← at? [.flowEntry, .flowSequenceEnd] then emptyNode else readNode .flow fuel
        else emptyNode
      let pair ← readCollection {} .map (pure (.mapping [(k, v)]))
      return pair :: (← readFlowItems false fuel)
    else if ← accept .flowSequenceEnd then return []
    else
      let n ← readNode .flow fuel
      return n :: (← readFlowItems false fuel)

/-- Reads the entries of a mapping in brackets up to the closing one. -/
def readFlowEntries (first : Bool) : Nat → Read (List (Nat × Nat))
  | 0 => throw .malformed
  | fuel + 1 => do
    if ← accept .flowMappingEnd then return []
    if !first then expect .flowEntry
    if ← accept .key then
      let k ←
        if ← at? [.value, .flowEntry, .flowMappingEnd] then emptyNode else readNode .flow fuel
      let v ←
        if ← accept .value then
          if ← at? [.flowEntry, .flowMappingEnd] then emptyNode else readNode .flow fuel
        else emptyNode
      return (k, v) :: (← readFlowEntries false fuel)
    else if ← accept .flowMappingEnd then return []
    else
      let k ← readNode .flow fuel
      let v ← emptyNode
      return (k, v) :: (← readFlowEntries false fuel)

end

/-! ## Documents -/

/-- The handles that need no directive. -/
def usualHandles : List (Text × Text) := [(['!'], ['!']), (['!', '!'], Tag.core)]

/-- Reads directives up to a token that is none. -/
def readDirectives (versionSeen : Bool) : Nat → Read Unit
  | 0 => return
  | fuel + 1 => do
    match ← peek with
    | some (.version major) =>
      next
      if versionSeen || major != 1 then throw .malformed
      readDirectives true fuel
    | some (.handle name expansion) =>
      next
      if ((← get).handles.lookup name).isSome then throw .malformed
      modify fun s => { s with handles := s.handles ++ [(name, expansion)] }
      readDirectives versionSeen fuel
    | some .otherDirective =>
      next
      readDirectives versionSeen fuel
    | _ => return

/-- Goes on over marks of the end of documents. -/
def skipDocumentEnds : Nat → Read Unit
  | 0 => return
  | fuel + 1 => do
    if ← accept .documentEnd then skipDocumentEnds fuel

/-- Whether the next token is a directive. -/
def atDirective : Read Bool := do
  match ← peek with
  | some (.version _) | some (.handle ..) | some .otherDirective => return true
  | _ => return false

/-- Reads the only document, if there is one. -/
def readDocument (fuel : Nat) : Read (Option Nat) := do
  match ← peek with
  | none => return none
  | some first =>
    let root ←
      if first == .documentStart || (← atDirective) then do
        readDirectives false fuel
        modify fun s => { s with handles := s.handles ++ usualHandles }
        expect .documentStart
        let ends ← at? [.documentStart, .documentEnd]
        if ends || (← atDirective) || (← peek).isNone then emptyNode else readNode .block fuel
      else do
        modify fun s => { s with handles := usualHandles }
        readNode .block fuel
    skipDocumentEnds fuel
    if (← peek).isSome then
      readDirectives false fuel
      throw .malformed
    return some root

end NodeReader

/-- The nodes of the only document in a text, if there is a document. -/
def Graph.ofText? (t : Text) : Except Fault (Option Graph) := do
  let ts := Tokens.ofText t
  let fuel := 2 * ts.tokens.length + 2
  let (root, s) ← (NodeReader.readDocument fuel).run { tokens := ts.tokens, fault := ts.fault }
  return root.map fun root => ⟨s.nodes, root⟩

end TestSkeleton.Yaml
