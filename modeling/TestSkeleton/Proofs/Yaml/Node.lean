import TestSkeleton.Yaml.Node
import TestSkeleton.Proofs.Yields

set_option autoImplicit false

/-! # Where nodes come from

Each node of a document is a scalar or a collection of its tokens, and has the tag that its form
gives it unless a tag is written (`Node.IsFrom`). While nodes are read there are not more
collections around them than tokens were met that open one (`NodeReader.Reads`), so reading fails
for its depth only in documents with as many of these (`Graph.ofText?_ends`).
-/

namespace TestSkeleton.Yaml

open Text

/-! ## Tokens and nodes -/

/-- Tokens that can open a collection: its start, or the hyphen of a sequence that has none. -/
def Token.opens : Token → Bool
  | flowSequenceStart | flowMappingStart | blockSequenceStart | blockMappingStart
  | blockEntry => true
  | _ => false

/-- How many tokens can open a collection. -/
def openings (ts : List Token) : Nat := ts.countP Token.opens

/-- A node that the tokens give: with the tag that its form gives it, or with one that is
written. -/
inductive Node.IsFrom (ts : List Token) : Node → Prop where
  | plain {t : Text} (h : Token.scalar true t ∈ ts) : IsFrom ts ⟨Tag.ofPlain t, .scalar t⟩
  | text (t : Text) : IsFrom ts ⟨.str, .scalar t⟩
  | empty : IsFrom ts ⟨.null, .scalar []⟩
  | sequence (content : Content) : IsFrom ts ⟨.seq, content⟩
  | mapping (content : Content) : IsFrom ts ⟨.map, content⟩
  | tagged {handle : Option Text} {suffix : Text} (n : Node) (h : Token.tag handle suffix ∈ ts) :
    IsFrom ts n

/-- Faults of reading the nodes of tokens. -/
inductive ReadFault (ts : Tokens) : Fault → Prop where
  | malformed : ReadFault ts .malformed
  | token {f : Fault} (h : ts.fault = some f) : ReadFault ts f
  | nesting (h : maxDepth ≤ openings ts.tokens) : ReadFault ts .tooDeep

namespace NodeReader

/-- Nodes of the tokens are read, inside of `depth` collections. As many tokens have opened one, but
for `slack` of them. -/
structure Reads (ts : Tokens) (depth slack : Nat) (s : NodeReader) : Prop where
  fault_eq : s.fault = ts.fault
  rest : s.tokens <:+ ts.tokens
  depth_eq : s.depth = depth
  nodes : ∀ n ∈ s.nodes, n.IsFrom ts.tokens
  opened : depth + openings s.tokens ≤ openings ts.tokens + slack

/-- The step goes on reading inside of `depth` collections. -/
abbrev Keeps {α : Type} (ts : Tokens) (depth : Nat) (x : Read α) : Prop :=
  ∀ s, Reads ts depth 0 s → Ends x s (fun _ s' => Reads ts depth 0 s') (ReadFault ts)

variable {ts : Tokens} {s : NodeReader} {d k : Nat} {α β : Type}

/-! ## Steps -/

section Rules

variable {x y : Read α} {f : α → Read β}

theorem Keeps.pure (a : α) : Keeps ts d (pure a : Read α) := fun _ h => Ends.pure h

theorem Keeps.malformed : Keeps ts d (throw .malformed : Read α) := fun _ _ => Ends.throw .malformed

theorem Keeps.bind (hx : Keeps ts d x) (hf : ∀ a, Keeps ts d (f a)) : Keeps ts d (x >>= f) :=
  fun s h => (hx s h).bind fun a s' h' => hf a s' h'

theorem Keeps.map {g : α → β} (hx : Keeps ts d x) : Keeps ts d (g <$> x) :=
  fun s h => Ends.map (hx s h)

theorem Keeps.ite {p : Prop} [Decidable p] (hx : Keeps ts d x) (hy : Keeps ts d y) :
    Keeps ts d (if p then x else y) := by
  split
  · exact hx
  · exact hy

/-- One of two steps, and then the same. -/
theorem Keeps.choice {p : Prop} [Decidable p] (hx : Keeps ts d x) (hy : Keeps ts d y)
    (hf : ∀ a, Keeps ts d (f a)) : Keeps ts d (if p then x >>= f else y >>= f) :=
  (hx.bind hf).ite (hy.bind hf)

end Rules

/-! ## Tokens -/

theorem peek_ends (h : Reads ts d k s) :
    Ends peek s (fun r s' => s = s' ∧ r = s.tokens.head?) (ReadFault ts) := by
  unfold peek
  refine Ends.get_bind ?_
  split
  next t rest ht => exact Ends.pure ⟨rfl, by rw [ht]; rfl⟩
  next hnil =>
    split
    next f hf => exact Ends.throw (.token (h.fault_eq ▸ hf))
    next => exact Ends.pure ⟨rfl, by rw [hnil]; rfl⟩

/-- The state behind the next token. -/
def behind (s : NodeReader) : NodeReader := { s with tokens := s.tokens.tail }

theorem openings_tail {l : List Token} {t : Token} (ht : l.head? = some t)
    (hopens : t.opens = true) : openings l = openings l.tail + 1 := by
  obtain ⟨rest, rfl⟩ := List.head?_eq_some_iff.mp ht
  simp only [openings, List.countP_cons, List.tail_cons, hopens, if_true]

theorem Reads.behind (h : Reads ts d k s) : Reads ts d k (behind s) where
  fault_eq := h.fault_eq
  rest := (List.tail_suffix _).trans h.rest
  depth_eq := h.depth_eq
  nodes := h.nodes
  opened := by
    have hle : openings s.tokens.tail ≤ openings s.tokens := (List.tail_sublist s.tokens).countP_le
    have hopened := h.opened
    show d + openings s.tokens.tail ≤ _
    omega

/-- Behind a token that opens a collection there is one more open. -/
theorem Reads.behind_opening {t : Token} (h : Reads ts d (k + 1) s) (ht : s.tokens.head? = some t)
    (hopens : t.opens = true) : Reads ts d k (NodeReader.behind s) where
  fault_eq := h.fault_eq
  rest := (List.tail_suffix _).trans h.rest
  depth_eq := h.depth_eq
  nodes := h.nodes
  opened := by
    have hopened := h.opened
    have htail := openings_tail ht hopens
    show d + openings s.tokens.tail ≤ _
    omega

theorem Reads.loosen (h : Reads ts d 0 s) : Reads ts d 1 s :=
  ⟨h.fault_eq, h.rest, h.depth_eq, h.nodes, Nat.le_succ_of_le h.opened⟩

theorem Reads.withHandles (h : Reads ts d k s) (handles : List (Text × Text)) :
    Reads ts d k { s with handles := handles } :=
  ⟨h.fault_eq, h.rest, h.depth_eq, h.nodes, h.opened⟩

/-- A token that is met is one of the tokens. -/
theorem Reads.mem {t : Token} (h : Reads ts d k s) (ht : s.tokens.head? = some t) :
    t ∈ ts.tokens :=
  h.rest.subset (List.mem_of_mem_head? ht)

theorem at?_ends (h : Reads ts d k s) (those : List Token) :
    Ends (at? those) s (fun b s' => s = s' ∧ b = s.tokens.head?.any those.contains)
      (ReadFault ts) := by
  unfold at?
  refine (peek_ends h).bind ?_
  rintro r s' ⟨rfl, rfl⟩
  split
  next t ht => exact Ends.pure ⟨rfl, by rw [ht]; rfl⟩
  next hnone => exact Ends.pure ⟨rfl, by rw [hnone]; rfl⟩

theorem accept_ends (h : Reads ts d k s) (t : Token) :
    Ends (accept t) s
      (fun b s' => b = true ∧ s.tokens.head? = some t ∧ s' = behind s
        ∨ b = false ∧ s.tokens.head? ≠ some t ∧ s' = s)
      (ReadFault ts) := by
  unfold accept
  refine (at?_ends h [t]).bind ?_
  rintro b s' ⟨rfl, hb⟩
  split
  next htrue =>
    subst htrue
    obtain ⟨t', ht', heq⟩ := (Option.any_eq_true ..).mp hb.symm
    obtain rfl : t' = t := by simpa using heq
    exact Ends.modify_bind (Ends.pure (.inl ⟨rfl, ht', rfl⟩))
  next hfalse =>
    refine Ends.pure (.inr ⟨rfl, fun ht => hfalse ?_, rfl⟩)
    rw [hb, ht]
    simp

theorem keeps_at? (those : List Token) : Keeps ts d (at? those) := fun _ h =>
  (at?_ends h those).mono (fun _ _ ⟨heq, _⟩ => heq ▸ h) fun _ => id

theorem keeps_accept (t : Token) : Keeps ts d (accept t) := by
  intro s h
  refine (accept_ends h t).mono (fun b s' hs' => ?_) fun _ => id
  rcases hs' with ⟨-, -, rfl⟩ | ⟨-, -, rfl⟩
  · exact h.behind
  · exact h

theorem keeps_expect (t : Token) : Keeps ts d (expect t) :=
  (keeps_accept t).bind fun _ => .ite .malformed (.pure _)

/-! ## Nodes -/

theorem Reads.push {n : Node} (h : Reads ts d k s) (hn : n.IsFrom ts.tokens) :
    Reads ts d k { s with nodes := s.nodes.push n } where
  fault_eq := h.fault_eq
  rest := h.rest
  depth_eq := h.depth_eq
  nodes := by
    intro m hm
    rcases Array.mem_push.mp hm with hm | rfl
    · exact h.nodes m hm
    · exact hn
  opened := h.opened

theorem add_ends {n : Node} (h : Reads ts d k s) (hn : n.IsFrom ts.tokens) :
    Ends (add n) s (fun _ s' => Reads ts d k s' ∧ s'.tokens = s.tokens) (ReadFault ts) :=
  Ends.get_bind (Ends.set_bind (Ends.pure ⟨h.push hn, rfl⟩))

theorem keeps_emptyNode : Keeps ts d emptyNode := fun _ h =>
  (add_ends h .empty).mono (fun _ _ h => h.1) fun _ => id

theorem keeps_fill {i : Nat} {n : Node} (hn : n.IsFrom ts.tokens) : Keeps ts d (fill i n) := by
  intro s h
  refine Ends.modify ⟨h.fault_eq, h.rest, h.depth_eq, fun m hm => ?_, h.opened⟩
  rcases Array.mem_or_eq_of_mem_setIfInBounds hm with hm | rfl
  · exact h.nodes m hm
  · exact hn

/-! ## Properties -/

/-- A tag that is written is one of the tokens. -/
def Properties.AreFrom (ts : Tokens) (p : Properties) : Prop :=
  p.tag.isSome = true → ∃ handle suffix, Token.tag handle suffix ∈ ts.tokens

theorem keeps_expandTag (handle : Option Text) (suffix : Text) :
    Keeps ts d (expandTag handle suffix) := by
  intro s h
  unfold expandTag
  split
  next => exact Ends.pure h
  next =>
    refine Ends.get_bind ?_
    split
    next => exact Ends.pure h
    next => exact Ends.throw .malformed

theorem readTag?_ends (h : Reads ts d k s) :
    Ends readTag? s
      (fun r s' => Reads ts d k s' ∧ ∀ t, r = some t → Token.tag t.1 t.2 ∈ ts.tokens)
      (ReadFault ts) := by
  unfold readTag?
  refine (peek_ends h).bind ?_
  rintro r s' ⟨rfl, hr⟩
  split
  next handle suffix =>
    refine Ends.modify_bind (Ends.pure ⟨h.behind, ?_⟩)
    rintro t ⟨⟩
    exact h.mem hr.symm
  next => exact Ends.pure ⟨h, nofun⟩

theorem keeps_readAnchor? : Keeps ts d readAnchor? := by
  intro s h
  unfold readAnchor?
  refine (peek_ends h).bind ?_
  rintro r s' ⟨rfl, hr⟩
  split
  next a => exact Ends.modify_bind (Ends.pure h.behind)
  next => exact Ends.pure h

theorem readProperties_ends (h : Reads ts d 0 s) :
    Ends readProperties s (fun p s' => Reads ts d 0 s' ∧ p.AreFrom ts) (ReadFault ts) := by
  unfold readProperties
  refine (keeps_readAnchor? s h).bind fun a s h => ?_
  split
  next a =>
    refine (readTag?_ends h).bind ?_
    rintro r s ⟨h, hr⟩
    split
    next handle suffix =>
      refine (keeps_expandTag handle suffix s h).bind fun t s h => ?_
      exact Ends.pure ⟨h, fun _ => ⟨handle, suffix, hr _ rfl⟩⟩
    next => exact Ends.pure ⟨h, nofun⟩
  next =>
    refine (readTag?_ends h).bind ?_
    rintro r s ⟨h, hr⟩
    split
    next handle suffix =>
      refine (keeps_readAnchor? s h).bind fun a s h => ?_
      refine (keeps_expandTag handle suffix s h).bind fun t s h => ?_
      exact Ends.pure ⟨h, fun _ => ⟨handle, suffix, hr _ rfl⟩⟩
    next => exact Ends.pure ⟨h, nofun⟩

theorem checkAnchor_ends (p : Properties) (s : NodeReader) :
    Ends (checkAnchor p) s (fun _ s' => s = s') (ReadFault ts) := by
  unfold checkAnchor
  split
  next a =>
    refine Ends.get_bind ?_
    split
    next => exact Ends.throw .malformed
    next => exact Ends.pure rfl
  next => exact Ends.pure rfl

theorem setAnchor_ends (p : Properties) (i : Nat) (h : Reads ts d k s) :
    Ends (setAnchor p i) s (fun _ s' => Reads ts d k s' ∧ s'.tokens = s.tokens) (ReadFault ts) := by
  unfold setAnchor
  split
  next a => exact Ends.modify ⟨⟨h.fault_eq, h.rest, h.depth_eq, h.nodes, h.opened⟩, rfl⟩
  next => exact Ends.pure ⟨h, rfl⟩

/-! ## Collections and scalars -/

/-- A collection has its usual tag, or one that is written. -/
theorem Properties.isFrom_collection {p : Properties} {usual : Tag} (hp : p.AreFrom ts)
    (husual : usual = .seq ∨ usual = .map) (content : Content) :
    Node.IsFrom ts.tokens ⟨p.ownTag.getD usual, content⟩ := by
  cases htag : p.tag with
  | some t =>
      obtain ⟨handle, suffix, hmem⟩ := hp (by rw [htag]; rfl)
      exact .tagged _ hmem
  | none =>
      have hown : p.ownTag = none := by unfold Properties.ownTag; rw [htag]
      rw [hown, Option.getD_none]
      rcases husual with rfl | rfl
      · exact .sequence content
      · exact .mapping content

theorem Properties.isFrom_scalar {p : Properties} {plain : Bool} {t : Text} (hp : p.AreFrom ts)
    (h : Token.scalar plain t ∈ ts.tokens ∨ plain = true ∧ t = []) :
    Node.IsFrom ts.tokens ⟨p.scalarTag plain t, .scalar t⟩ := by
  cases htag : p.tag with
  | some u =>
      obtain ⟨handle, suffix, hmem⟩ := hp (by rw [htag]; rfl)
      exact .tagged _ hmem
  | none =>
      have hscalar : p.scalarTag plain t = if plain then Tag.ofPlain t else .str := by
        unfold Properties.scalarTag
        rw [htag]
      rw [hscalar]
      rcases h with hmem | ⟨rfl, rfl⟩
      · cases plain with
        | true => exact .plain hmem
        | false => exact .text t
      · exact .empty

/-- What is read of a collection is one deeper, and so behind a token that has opened it, or before
one that does (`k = 1`). -/
theorem readCollection_ends {p : Properties} {usual : Tag} {read : Read Content}
    (h : Reads ts d 0 s) (hp : p.AreFrom ts) (husual : usual = .seq ∨ usual = .map)
    (hopened : d + 1 + openings s.tokens ≤ openings ts.tokens + k)
    (hread : ∀ s', Reads ts (d + 1) k s' → s'.tokens = s.tokens →
      Ends read s' (fun _ s'' => Reads ts (d + 1) 1 s'') (ReadFault ts)) :
    Ends (readCollection p usual read) s (fun _ s' => Reads ts d 0 s') (ReadFault ts) := by
  have hnode := Properties.isFrom_collection hp husual
  unfold readCollection
  refine (checkAnchor_ends p s).bind ?_
  rintro _ _ rfl
  refine (add_ends h (hnode (.sequence []))).bind fun i s₁ ⟨h₁, htokens₁⟩ => ?_
  refine (setAnchor_ends p i h₁).bind fun _ s₂ ⟨h₂, htokens₂⟩ => ?_
  refine Ends.get_bind ?_
  have htokens : s₂.tokens = s.tokens := htokens₂.trans htokens₁
  dsimp only
  split
  next hdeep =>
    have hopened₂ := h₂.opened
    rw [h₂.depth_eq] at hdeep
    exact Ends.throw (.nesting (by omega))
  next =>
    refine Ends.modify_bind ?_
    have h₃ : Reads ts (d + 1) k { s₂ with depth := s₂.depth + 1 } :=
      ⟨h₂.fault_eq, h₂.rest, by rw [h₂.depth_eq], h₂.nodes, by rw [htokens]; exact hopened⟩
    refine (hread _ h₃ htokens).bind fun content s₄ h₄ => Ends.modify_bind ?_
    have hopened₄ : d + openings s₄.tokens ≤ openings ts.tokens := by
      have := h₄.opened
      omega
    have h₅ : Reads ts d 0 { s₄ with depth := s₂.depth } :=
      ⟨h₄.fault_eq, h₄.rest, h₂.depth_eq, h₄.nodes, hopened₄⟩
    exact (keeps_fill (hnode content) _ h₅).bind fun _ s₆ h₆ => Ends.pure h₆

/-- A collection behind the token that opens it. -/
theorem opened_ends {t : Token} {p : Properties} {usual : Tag} {read : Read Content}
    (h : Reads ts d 0 s) (ht : s.tokens.head? = some t) (hopens : t.opens = true)
    (hp : p.AreFrom ts) (husual : usual = .seq ∨ usual = .map) (hread : Keeps ts (d + 1) read) :
    Ends (do next; readCollection p usual read) s (fun _ s' => Reads ts d 0 s') (ReadFault ts) := by
  refine Ends.modify_bind (readCollection_ends (k := 0) h.behind hp husual ?_ ?_)
  · have hopened := h.opened
    have htail := openings_tail ht hopens
    show d + 1 + openings s.tokens.tail ≤ _
    omega
  · exact fun s' h' _ => (hread s' h').mono (fun _ _ h'' => h''.loosen) fun _ => id

/-- An entry in brackets that is a mapping of its own. -/
theorem keeps_pair (i j : Nat) :
    Keeps ts d (readCollection {} .map (pure (.mapping [(i, j)]))) := by
  intro s h
  refine readCollection_ends (k := 1) h nofun (.inr rfl) ?_ fun s' h' _ => Ends.pure h'
  have hopened := h.opened
  omega

theorem readScalar_ends {p : Properties} {plain : Bool} {t : Text} (h : Reads ts d 0 s)
    (hp : p.AreFrom ts) (ht : Token.scalar plain t ∈ ts.tokens ∨ plain = true ∧ t = []) :
    Ends (readScalar p plain t) s (fun _ s' => Reads ts d 0 s') (ReadFault ts) := by
  unfold readScalar
  refine (checkAnchor_ends p s).bind ?_
  rintro _ _ rfl
  refine (add_ends h (Properties.isFrom_scalar hp ht)).bind fun i s₁ ⟨h₁, _⟩ => ?_
  exact (setAnchor_ends p i h₁).bind fun _ s₂ ⟨h₂, _⟩ => Ends.pure h₂

/-! ## All kinds of nodes -/

/-- Nodes of every kind are read in as many nested steps as `fuel`. -/
structure AllRead (ts : Tokens) (fuel : Nat) : Prop where
  node (d : Nat) (place : Place) : Keeps ts d (readNode place fuel)
  blockItems (d : Nat) : Keeps ts d (readBlockItems fuel)
  indentless (d : Nat) : Keeps ts d (readIndentless fuel)
  /-- The first hyphen of a sequence that has no start opens it. -/
  hyphen (d : Nat) (s : NodeReader) (h : Reads ts d 1 s)
    (ht : s.tokens.head? = some .blockEntry) :
    Ends (readIndentless fuel) s (fun _ s' => Reads ts d 0 s') (ReadFault ts)
  blockEntries (d : Nat) : Keeps ts d (readBlockEntries fuel)
  flowItems (d : Nat) (first : Bool) : Keeps ts d (readFlowItems first fuel)
  flowEntries (d : Nat) (first : Bool) : Keeps ts d (readFlowEntries first fuel)

section Kinds

variable {fuel : Nat} (all : AllRead ts fuel)
include all

theorem keeps_readBlockItems : Keeps ts d (readBlockItems (fuel + 1)) := by
  have hitem (n : Nat) : Keeps ts d (do return n :: (← readBlockItems fuel)) :=
    (all.blockItems d).bind fun _ => .pure _
  rw [readBlockItems]
  refine (keeps_accept _).bind fun _ => .ite ((keeps_at? _).bind fun _ => ?_) ?_
  · exact keeps_emptyNode.choice (all.node d .block) hitem
  · exact (keeps_expect _).bind fun _ => .pure _

/-- The items of a sequence behind its first hyphen. -/
theorem keeps_readIndentless_behind :
    Keeps ts d (do
      let n ← if ← at? entryEnds then emptyNode else readNode .block fuel
      return n :: (← readIndentless fuel)) := by
  have hitem (n : Nat) : Keeps ts d (do return n :: (← readIndentless fuel)) :=
    (all.indentless d).bind fun _ => .pure _
  exact (keeps_at? _).bind fun _ => keeps_emptyNode.choice (all.node d .block) hitem

theorem keeps_readIndentless : Keeps ts d (readIndentless (fuel + 1)) := by
  rw [readIndentless]
  exact (keeps_accept _).bind fun _ => .ite (keeps_readIndentless_behind all) (.pure _)

theorem readIndentless_ends (h : Reads ts d 1 s) (ht : s.tokens.head? = some .blockEntry) :
    Ends (readIndentless (fuel + 1)) s (fun _ s' => Reads ts d 0 s') (ReadFault ts) := by
  rw [readIndentless]
  refine (accept_ends h _).bind fun b s' hs' => ?_
  rcases hs' with ⟨rfl, -, rfl⟩ | ⟨-, hne, -⟩
  · exact keeps_readIndentless_behind all _ (h.behind_opening ht rfl)
  · exact absurd ht hne

/-- A key or value that may be missing. -/
theorem keeps_part (place : Place) (those : List Token) {f : Nat → Read β}
    (hf : ∀ n, Keeps ts d (f n)) :
    Keeps ts d (do
      if ← at? those then do
        let n ← emptyNode
        f n
      else do
        let n ← readNode place fuel
        f n) :=
  (keeps_at? _).bind fun _ => keeps_emptyNode.choice (all.node d place) hf

/-- The value of an entry, which is missing without its colon. -/
theorem keeps_valuePart (place : Place) (those : List Token) {f : Nat → Read β}
    (hf : ∀ n, Keeps ts d (f n)) :
    Keeps ts d (do
      if ← accept .value then
        if ← at? those then do
          let n ← emptyNode
          f n
        else do
          let n ← readNode place fuel
          f n
      else do
        let n ← emptyNode
        f n) :=
  (keeps_accept _).bind fun _ => .ite (keeps_part all place those hf) (keeps_emptyNode.bind hf)

theorem keeps_readBlockEntries : Keeps ts d (readBlockEntries (fuel + 1)) := by
  have hentry (k v : Nat) : Keeps ts d (do return (k, v) :: (← readBlockEntries fuel)) :=
    (all.blockEntries d).bind fun _ => .pure _
  rw [readBlockEntries]
  refine (keeps_accept _).bind fun _ => .ite ?_ ((keeps_expect _).bind fun _ => .pure _)
  exact keeps_part all _ _ fun k => keeps_valuePart all _ _ fun v => hentry k v

theorem keeps_readFlowItems (first : Bool) : Keeps ts d (readFlowItems first (fuel + 1)) := by
  have hitem (n : Nat) : Keeps ts d (do return n :: (← readFlowItems false fuel)) :=
    (all.flowItems d false).bind fun _ => .pure _
  rw [readFlowItems]
  refine (keeps_accept _).bind fun _ => .ite (.pure _) ?_
  refine .choice (keeps_expect _) (.pure ()) fun _ => ?_
  refine (keeps_accept _).bind fun _ => .ite ?_ ?_
  · exact keeps_part all _ _ fun k => keeps_valuePart all _ _ fun v => (keeps_pair k v).bind hitem
  · exact (keeps_accept _).bind fun _ => .ite (.pure _) ((all.node d .flow).bind hitem)

theorem keeps_readFlowEntries (first : Bool) : Keeps ts d (readFlowEntries first (fuel + 1)) := by
  have hentry (k v : Nat) : Keeps ts d (do return (k, v) :: (← readFlowEntries false fuel)) :=
    (all.flowEntries d false).bind fun _ => .pure _
  rw [readFlowEntries]
  refine (keeps_accept _).bind fun _ => .ite (.pure _) ?_
  refine .choice (keeps_expect _) (.pure ()) fun _ => ?_
  refine (keeps_accept _).bind fun _ => .ite ?_ ?_
  · exact keeps_part all _ _ fun k => keeps_valuePart all _ _ fun v => hentry k v
  · refine (keeps_accept _).bind fun _ => .ite (.pure _) ((all.node d .flow).bind fun k => ?_)
    exact keeps_emptyNode.bind fun v => hentry k v

theorem keeps_readNode (place : Place) : Keeps ts d (readNode place (fuel + 1)) := by
  intro s h
  rw [readNode]
  refine (peek_ends h).bind ?_
  rintro r s ⟨rfl, -⟩
  split
  next name =>
    refine Ends.modify_bind (Ends.get_bind ?_)
    split
    next i _ => exact Ends.pure h.behind
    next => exact Ends.throw .malformed
  next =>
    refine (readProperties_ends h).bind fun p s ⟨h, hp⟩ => (peek_ends h).bind ?_
    rintro r _ ⟨rfl, hr⟩
    have hsequence {read : Read (List Nat)} {t : Token} (ht : s.tokens.head? = some t)
        (hopens : t.opens = true) (hread : Keeps ts (d + 1) read) :=
      opened_ends h ht hopens hp (.inl rfl) (hread.map (g := Content.sequence))
    have hmapping {read : Read (List (Nat × Nat))} {t : Token} (ht : s.tokens.head? = some t)
        (hopens : t.opens = true) (hread : Keeps ts (d + 1) read) :=
      opened_ends h ht hopens hp (.inr rfl) (hread.map (g := Content.mapping))
    dsimp only
    split
    next =>
      have hopened := h.opened
      refine readCollection_ends (k := 1) h hp (.inl rfl) (by omega) fun s' h' heq => ?_
      refine Ends.map ?_
      exact (all.hyphen _ s' h' (heq ▸ hr.symm)).mono (fun _ _ h'' => h''.loosen) fun _ => id
    next plain text =>
      exact Ends.modify_bind (readScalar_ends h.behind hp (.inl (h.mem hr.symm)))
    next => exact hsequence hr.symm rfl (all.flowItems _ true)
    next => exact hmapping hr.symm rfl (all.flowEntries _ true)
    next => exact hsequence hr.symm rfl (all.blockItems _)
    next => exact hsequence hr.symm rfl (all.blockItems _)
    next => exact hmapping hr.symm rfl (all.blockEntries _)
    next => exact hmapping hr.symm rfl (all.blockEntries _)
    next =>
      split
      next => exact readScalar_ends h hp (.inr ⟨rfl, rfl⟩)
      next => exact Ends.throw .malformed

end Kinds

theorem allRead (ts : Tokens) (fuel : Nat) : AllRead ts fuel := by
  induction fuel with
  | zero =>
      exact ⟨fun _ _ => .malformed, fun _ => .malformed, fun _ => .malformed,
        fun _ _ _ _ => Ends.throw .malformed, fun _ => .malformed, fun _ _ => .malformed,
        fun _ _ => .malformed⟩
  | succ fuel all =>
      exact ⟨fun _ place => keeps_readNode all place, fun _ => keeps_readBlockItems all,
        fun _ => keeps_readIndentless all, fun _ _ h ht => readIndentless_ends all h ht,
        fun _ => keeps_readBlockEntries all, fun _ first => keeps_readFlowItems all first,
        fun _ first => keeps_readFlowEntries all first⟩

/-! ## Documents -/

theorem keeps_modifyHandles (g : NodeReader → List (Text × Text)) :
    Keeps ts d (modify fun s => { s with handles := g s } : Read Unit) :=
  fun _ h => Ends.modify (h.withHandles _)

theorem keeps_readDirectives (seen : Bool) (fuel : Nat) :
    Keeps ts d (readDirectives seen fuel) := by
  induction fuel generalizing seen with
  | zero => exact .pure _
  | succ fuel ih =>
      intro s h
      rw [readDirectives]
      refine (peek_ends h).bind ?_
      rintro r s ⟨rfl, -⟩
      split
      next major =>
        refine Ends.modify_bind ?_
        split
        next => exact Ends.throw .malformed
        next => exact ih true _ h.behind
      next name expansion =>
        refine Ends.modify_bind (Ends.get_bind ?_)
        split
        next => exact Ends.throw .malformed
        next => exact Ends.modify_bind (ih seen _ (h.behind.withHandles _))
      next => exact Ends.modify_bind (ih seen _ h.behind)
      next => exact Ends.pure h

theorem keeps_skipDocumentEnds (fuel : Nat) : Keeps ts d (skipDocumentEnds fuel) := by
  induction fuel with
  | zero => exact .pure _
  | succ fuel ih =>
      rw [skipDocumentEnds]
      exact (keeps_accept _).bind fun _ => .ite ih (.pure _)

theorem keeps_peek : Keeps ts d peek := fun _ h =>
  (peek_ends h).mono (fun _ _ ⟨heq, _⟩ => heq ▸ h) fun _ => id

theorem keeps_atDirective : Keeps ts d atDirective := by
  refine keeps_peek.bind fun r => ?_
  split <;> exact .pure _

theorem keeps_readDocument (fuel : Nat) : Keeps ts d (readDocument fuel) := by
  have hnode := (allRead ts fuel).node d .block
  have hrest (root : Nat) : Keeps ts d (do
      skipDocumentEnds fuel
      if (← peek).isSome then
        readDirectives false fuel
        throw .malformed
      return some root) := by
    refine (keeps_skipDocumentEnds fuel).bind fun _ => keeps_peek.bind fun _ => .ite ?_ (.pure _)
    exact (keeps_readDirectives false fuel).bind fun _ => .bind .malformed fun _ => .pure _
  refine keeps_peek.bind fun r => ?_
  split
  next => exact .pure _
  next first =>
    refine keeps_atDirective.bind fun b => .ite ?_ ?_
    · refine (keeps_readDirectives false fuel).bind fun _ => ?_
      refine (keeps_modifyHandles _).bind fun _ => ?_
      refine (keeps_expect _).bind fun _ => (keeps_at? _).bind fun _ => ?_
      refine keeps_atDirective.bind fun _ => keeps_peek.bind fun _ => ?_
      exact keeps_emptyNode.choice hnode hrest
    · exact (keeps_modifyHandles _).bind fun _ => hnode.bind hrest

end NodeReader

/-- **The nodes of a document** are those of its tokens, and are missing just for what is at fault
in the tokens. -/
theorem Graph.ofText?_ends (t : Text) :
    Yields (Graph.ofText? t)
      (fun g => ∀ g', g = some g' → ∀ n ∈ g'.nodes, n.IsFrom (Tokens.ofText t).tokens)
      (ReadFault (Tokens.ofText t)) := by
  have hstart : NodeReader.Reads (Tokens.ofText t) 0 0
      { tokens := (Tokens.ofText t).tokens, fault := (Tokens.ofText t).fault } :=
    ⟨rfl, List.suffix_rfl, rfl, fun n hn => absurd hn (Array.not_mem_empty n), by simp⟩
  unfold Graph.ofText?
  refine Yields.bind (NodeReader.keeps_readDocument _ _ hstart) fun r hr => .ok ?_
  rintro g hg
  obtain ⟨root, -, rfl⟩ := Option.map_eq_some_iff.mp hg
  exact hr.nodes

end TestSkeleton.Yaml
