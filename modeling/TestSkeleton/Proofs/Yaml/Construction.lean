import TestSkeleton.Yaml.Construction
import TestSkeleton.Proofs.Yields

set_option autoImplicit false

/-! # Why making values fails

While the values of a document are made its nodes change: a mapping takes over entries of others,
and a key `=` becomes a text. No node gets a tag or a text by this that was not in the document
(`AllBecome`). So what is at fault if the values cannot be made is found in the nodes as they were
read (`Graph.document_ends`): a text without the value that a tag asks for, or a mapping where a
scalar is asked for.
-/

namespace TestSkeleton.Yaml

/-! ## Nodes while values are made -/

/-- The node of a number; beyond the nodes there is an empty scalar. -/
def nodeAt (nodes : Array Node) (i : Nat) : Node := nodes.getD i ⟨.null, .scalar []⟩

/-- The node is a mapping. -/
def Node.IsMapping (n : Node) : Prop := ∃ es, n.content = .mapping es

/-- What a node can become while values are made: the key `=` a text, and a mapping one with other
entries. -/
structure Node.Becomes (n n' : Node) : Prop where
  tag_eq : n'.tag = n.tag ∨ n.tag = .value ∧ n'.tag = .str
  scalar_iff : ∀ t, n'.content = .scalar t ↔ n.content = .scalar t
  isMapping_iff : n'.IsMapping ↔ n.IsMapping

section Nodes

variable {nodes nodes' : Array Node} {n n' n'' : Node} {i j : Nat}

theorem Node.Becomes.refl (n : Node) : n.Becomes n := ⟨.inl rfl, fun _ => .rfl, .rfl⟩

theorem Node.Becomes.trans (h : n.Becomes n') (h' : n'.Becomes n'') : n.Becomes n'' where
  tag_eq := by
    rcases h'.tag_eq with heq | ⟨hvalue, hstr⟩
    · rw [heq]
      exact h.tag_eq
    · rcases h.tag_eq with heq | ⟨-, hstr'⟩
      · exact .inr ⟨heq ▸ hvalue, hstr⟩
      · rw [hstr'] at hvalue
        cases hvalue
  scalar_iff t := (h'.scalar_iff t).trans (h.scalar_iff t)
  isMapping_iff := h'.isMapping_iff.trans h.isMapping_iff

/-- There are no tags but those of nodes, save that of empty scalars. -/
theorem mem_or_eq_empty (nodes : Array Node) (i : Nat) :
    nodeAt nodes i ∈ nodes ∨ nodeAt nodes i = ⟨.null, .scalar []⟩ := by
  unfold nodeAt
  by_cases hi : i < nodes.size
  · left
    rw [Array.getD_eq_getD_getElem?, Array.getElem?_eq_getElem hi, Option.getD_some]
    exact Array.getElem_mem hi
  · right
    rw [Array.getD_eq_getD_getElem?, Array.getElem?_eq_none (Nat.le_of_not_lt hi), Option.getD_none]

theorem nodeAt_set (nodes : Array Node) (i j : Nat) (n : Node) :
    nodeAt (nodes.setIfInBounds i n) j = n ∧ j = i
      ∨ nodeAt (nodes.setIfInBounds i n) j = nodeAt nodes j := by
  unfold nodeAt
  simp only [Array.getD_eq_getD_getElem?, Array.getElem?_setIfInBounds]
  split
  next hij =>
    split
    next hi => exact .inl ⟨rfl, hij.symm⟩
    next hi =>
      subst hij
      rw [Array.getElem?_eq_none (Nat.le_of_not_lt hi)]
      exact .inr rfl
  next => exact .inr rfl

/-- The nodes have become others. -/
def AllBecome (nodes nodes' : Array Node) : Prop :=
  ∀ i, (nodeAt nodes i).Becomes (nodeAt nodes' i)

theorem AllBecome.refl (nodes : Array Node) : AllBecome nodes nodes := fun _ => .refl _

theorem AllBecome.set (h : AllBecome nodes nodes') (hn : (nodeAt nodes' i).Becomes n) :
    AllBecome nodes (nodes'.setIfInBounds i n) := by
  intro j
  rcases nodeAt_set nodes' i j n with ⟨heq, rfl⟩ | heq
  · rw [heq]
    exact (h j).trans hn
  · rw [heq]
    exact h j

end Nodes

/-! ## Causes of faults -/

/-- A node stands for a text: its own one, or if it is a mapping one that is somewhere in the
document. -/
inductive StandsFor (nodes : Array Node) (n : Node) (t : Text) : Prop where
  | own (h : n.content = .scalar t)
  | other {m : Node} (hmapping : n.IsMapping) (hm : m ∈ nodes) (h : m.content = .scalar t)
  | empty (hmapping : n.IsMapping) (h : t = [])

/-- Faults of documents with these nodes, and what is at fault. -/
inductive FaultOf (nodes : Array Node) : Fault → Prop where
  | malformed : FaultOf nodes .malformed
  /-- The text of a node does not have the value that the tag of the node asks for. -/
  | scalar {n : Node} {t : Text} {f : Fault} (hn : n ∈ nodes) (ht : StandsFor nodes n t)
    (h : ofScalar n.tag t = .error f) : FaultOf nodes f
  | moment {n : Node} (hn : n ∈ nodes) (htag : n.tag = .timestamp) (hmapping : n.IsMapping) :
    FaultOf nodes .momentOfMapping
  /-- A mapping that is to be a scalar stands for what is under a key `=`, and that for itself. -/
  | chain {n m : Node} (hn : n ∈ nodes) (hmapping : n.IsMapping) (htag : n.tag.isCollection = false)
    (hm : m ∈ nodes) (hvalue : m.tag = .value) : FaultOf nodes .tooDeep

namespace Builder

variable {nodes : Array Node} {b : Builder} {i fuel : Nat} {f : Fault} {t : Text}

theorem node_eq (b : Builder) (i : Nat) : b.node i = nodeAt b.nodes i := rfl

theorem entries?_isSome_iff : (b.entries? i).isSome = true ↔ (b.node i).IsMapping := by
  unfold entries? Node.IsMapping
  split
  next es h => simp [h]
  next h => simpa using h

theorem isMapping_of_isNone (h : ¬ (b.entries? i).isNone = true) : (b.node i).IsMapping := by
  rw [← entries?_isSome_iff, ← Option.not_isNone, Bool.eq_false_iff.mpr h]
  rfl

/-- The nodes are those of the document, as far as they have not become others. -/
def StemsFrom (nodes : Array Node) (b : Builder) : Prop := AllBecome nodes b.nodes

theorem stemsFrom_settleKey (h : StemsFrom nodes b) (i : Nat) :
    StemsFrom nodes (b.settleKey i) := by
  unfold settleKey
  split
  next hvalue =>
    exact h.set ⟨.inr ⟨hvalue, rfl⟩, fun _ => .rfl, .rfl⟩
  next => exact h

theorem stemsFrom_setEntries (h : StemsFrom nodes b) (hi : (b.node i).IsMapping)
    (es : List (Nat × Nat)) : StemsFrom nodes (b.setEntries i es) := by
  obtain ⟨es', hes'⟩ := hi
  refine h.set ⟨.inl rfl, fun t => ?_, ?_⟩
  · rw [← node_eq, hes']
    exact iff_of_false nofun nofun
  · exact iff_of_true ⟨es, rfl⟩ ⟨es', hes'⟩

theorem stemsFrom_foldl_settleKey (h : StemsFrom nodes b) (es : List (Nat × Nat)) :
    StemsFrom nodes (es.foldl (fun b e => b.settleKey e.1) b) := by
  induction es generalizing b with
  | nil => exact h
  | cons e es ih => exact ih (stemsFrom_settleKey h e.1)

/-! ## Scalars -/

theorem scalarText_ends (b : Builder) (fuel i : Nat) :
    Yields (b.scalarText fuel i)
      (fun t => ∃ j, (b.node j).content = .scalar t ∧ (j = i ∨ (b.node i).IsMapping))
      fun f => f = .malformed ∨ f = .tooDeep
        ∧ (fuel = 0 ∨ (b.node i).IsMapping ∧ ∃ j, (b.node j).tag = .value) := by
  induction fuel generalizing i with
  | zero => exact .error (.inr ⟨rfl, .inl rfl⟩)
  | succ fuel ih =>
      unfold scalarText
      split
      next t ht => exact .ok ⟨i, ht, .inl rfl⟩
      next => exact .error (.inl rfl)
      next es hes =>
        have hmapping : (b.node i).IsMapping := ⟨es, hes⟩
        split
        next e he =>
          have hvalue : (b.node e.1).tag = .value := by simpa using List.find?_some he
          refine (ih e.2).mono (fun t ht => ?_) fun f hf => ?_
          · obtain ⟨j, hj, -⟩ := ht
            exact ⟨j, hj, .inr hmapping⟩
          · exact hf.imp_right fun ⟨hf, _⟩ => ⟨hf, .inr ⟨hmapping, e.1, hvalue⟩⟩
        next => exact .error (.inl rfl)

/-- The tag of a node that asks for a value, or one that has become a text. -/
theorem tag_cases (h : StemsFrom nodes b) (i : Nat) :
    (b.node i).tag = .str ∨ (b.node i).tag = .null
      ∨ nodeAt nodes i ∈ nodes ∧ (b.node i).tag = (nodeAt nodes i).tag := by
  rcases (h i).tag_eq with heq | ⟨-, hstr⟩
  · rcases mem_or_eq_empty nodes i with hmem | hempty
    · exact .inr (.inr ⟨hmem, heq⟩)
    · rw [hempty] at heq
      exact .inr (.inl heq)
  · exact .inl hstr

/-- What is at fault if a text does not have the value that it is asked for. -/
theorem faultOf_ofScalar (h : StemsFrom nodes b) {j : Nat} (ht : (b.node j).content = .scalar t)
    (hof : j = i ∨ (b.node i).IsMapping) (hf : ofScalar (b.node i).tag t = .error f) :
    FaultOf nodes f := by
  rcases tag_cases h i with hstr | hnull | ⟨hn, htag⟩
  · rw [hstr] at hf
    cases hf
  · rw [hnull] at hf
    cases hf
  · have hcontent : (nodeAt nodes j).content = .scalar t := ((h j).scalar_iff t).mp ht
    rw [htag] at hf
    refine .scalar hn ?_ hf
    rcases hof with rfl | hmapping
    · exact .own hcontent
    · have hmapping' := (h i).isMapping_iff.mp hmapping
      rcases mem_or_eq_empty nodes j with hm | hempty
      · exact .other hmapping' hm hcontent
      · rw [hempty] at hcontent
        exact .empty hmapping' (Content.scalar.inj hcontent).symm

/-- What is at fault if a mapping does not stand for a text in the end. -/
theorem faultOf_chain (h : StemsFrom nodes b) (hmapping : (b.node i).IsMapping)
    (htag : (b.node i).tag.isCollection = false) {j : Nat} (hvalue : (b.node j).tag = .value) :
    FaultOf nodes .tooDeep := by
  have hn : nodeAt nodes i ∈ nodes := by
    rcases mem_or_eq_empty nodes i with hn | hempty
    · exact hn
    · obtain ⟨es, hes⟩ := (h i).isMapping_iff.mp hmapping
      rw [hempty] at hes
      cases hes
  have htag' : (nodeAt nodes i).tag.isCollection = false := by
    rcases (h i).tag_eq with heq | ⟨hvalue, -⟩
    · rw [← heq]
      exact htag
    · rw [hvalue]
      rfl
  rcases tag_cases h j with hstr | hnull | ⟨hm, heq⟩
  · rw [hvalue] at hstr
    cases hstr
  · rw [hvalue] at hnull
    cases hnull
  · exact .chain hn ((h i).isMapping_iff.mp hmapping) htag' hm (heq ▸ hvalue)

theorem faultOf_moment (h : StemsFrom nodes b) (hmapping : (b.node i).IsMapping)
    (htag : (b.node i).tag = .timestamp) : FaultOf nodes .momentOfMapping := by
  rcases tag_cases h i with hstr | hnull | ⟨hn, heq⟩
  · rw [htag] at hstr
    cases hstr
  · rw [htag] at hnull
    cases hnull
  · exact .moment hn (heq ▸ htag) ((h i).isMapping_iff.mp hmapping)

/-! ## Steps of making values -/

/-- The steps keep the nodes, or fail for what is at fault. -/
abbrev Goes {α : Type} (nodes : Array Node) (x : Build α) : Prop :=
  ∀ b, StemsFrom nodes b → Ends x b (fun _ => StemsFrom nodes) (FaultOf nodes)

theorem goes_make (i : Nat) : Goes nodes (make i) := by
  intro b hb
  unfold make
  refine Ends.get_bind ?_
  split
  next v hv => exact Ends.pure hb
  next hv =>
    dsimp only
    split
    next => exact Ends.set_bind (Ends.pure hb)
    next hcollection =>
      have htag : (b.node i).tag.isCollection = false := by simpa using hcollection
      refine Ends.bind (P := fun t b' => b = b'
        ∧ ∃ j, (b.node j).content = .scalar t ∧ (j = i ∨ (b.node i).IsMapping)) ?_ ?_
      · refine Ends.lift ((scalarText_ends b (b.nodes.size + 1) i).mono (fun t ht => ⟨rfl, ht⟩) ?_)
        rintro f (rfl | ⟨rfl, hfuel | ⟨hmapping, j, hvalue⟩⟩)
        · exact .malformed
        · cases hfuel
        · exact faultOf_chain hb hmapping htag hvalue
      · rintro t _ ⟨rfl, j, ht, hof⟩
        split
        next hmoment =>
          rw [Bool.and_eq_true, decide_eq_true_eq, entries?_isSome_iff] at hmoment
          exact Ends.throw (faultOf_moment hb hmoment.2 hmoment.1)
        next =>
          refine Ends.bind (P := fun _ _ => True) (Ends.lift ⟨fun _ _ => trivial, ?_⟩) ?_
          · exact fun f hf => faultOf_ofScalar hb ht hof hf
          · exact fun v _ _ => Ends.set_bind (Ends.pure hb)

/-- Merging goes on a mapping, and keeps it one. -/
theorem goes_merge (fuel i : Nat) (taken : List (Nat × Nat)) (hi : (nodeAt nodes i).IsMapping) :
    Goes nodes (merge fuel i taken) := by
  induction fuel generalizing i taken with
  | zero => exact fun b hb => Ends.pure hb
  | succ fuel ih =>
      intro b hb
      unfold merge
      refine Ends.get_bind ?_
      dsimp only
      split
      next =>
        refine Ends.set ?_
        have hfold := stemsFrom_foldl_settleKey hb ((b.entries? i).getD [])
        exact stemsFrom_setEntries hfold ((hfold i).isMapping_iff.mpr hi) _
      next before source behind hsplit =>
        have hb' := stemsFrom_setEntries hb ((hb i).isMapping_iff.mpr hi) (before ++ behind)
        have hentries (j : Nat) : Goes nodes (do
            if ((← get).entries? j).isNone then throw .malformed
            merge fuel j []
            return ((← get).entries? j).getD [] : Build (List (Nat × Nat))) := by
          intro s hs
          refine Ends.get_bind ?_
          split
          next => exact Ends.throw .malformed
          next hmapping =>
            have hj := (hs j).isMapping_iff.mp (isMapping_of_isNone hmapping)
            exact (ih j [] hj s hs).bind fun _ s' hs' => Ends.get_bind (Ends.pure hs')
        refine Ends.set_bind ?_
        split
        next => exact (hentries source _ hb').bind fun more s hs => ih i (taken ++ more) hi s hs
        next items _ =>
          refine Ends.bind (P := fun _ => StemsFrom nodes) (Ends.mapM hb' fun j _ => hentries j) ?_
          exact fun more s hs => ih i _ hi s hs
        next => exact Ends.throw .malformed

theorem goes_items (i : Nat) : Goes nodes (items i) := by
  intro b hb
  unfold items
  refine Ends.get_bind ?_
  split
  next => exact Ends.pure hb
  next => exact Ends.throw .malformed

theorem goes_makePair (i : Nat) : Goes nodes (makePair i) := by
  intro b hb
  unfold makePair
  refine Ends.get_bind ?_
  split
  next e _ =>
    refine (goes_make e.1 b hb).bind fun v b' hb' => ?_
    exact (goes_make e.2 b' hb').bind fun w b'' hb'' => Ends.pure hb''
  next => exact Ends.throw .malformed

theorem goes_makeEntries (i : Nat) : Goes nodes (makeEntries i) := by
  intro b hb
  unfold makeEntries
  refine Ends.get_bind ?_
  split
  next => exact Ends.throw .malformed
  next hmapping =>
    have hi := (hb i).isMapping_iff.mp (isMapping_of_isNone hmapping)
    refine (goes_merge _ i [] hi b hb).bind fun _ b' hb' => Ends.get_bind ?_
    refine Ends.bind (P := fun _ => StemsFrom nodes) (Ends.mapM hb' fun e _ s hs => ?_)
      fun _ _ hb'' => Ends.pure hb''
    refine (goes_make e.1 s hs).bind fun k s' hs' => Ends.get_bind ?_
    split
    next => exact Ends.throw .malformed
    next =>
      refine (goes_make e.2 s' hs').bind fun v s'' hs'' => Ends.get_bind ?_
      exact Ends.pure hs''

/-- A node gets the list of what its items are made to. -/
theorem goes_collect {f : Nat → Build Value} (h : ∀ j, Goes nodes (f j)) (i : Nat) :
    Goes nodes (do
      let vs ← (← items i).mapM f
      modify fun b => { b with parts := b.parts.setIfInBounds i (.list vs) }) := by
  intro b hb
  refine (goes_items i b hb).bind fun is b' hb' => ?_
  exact (Ends.mapM hb' fun j _ => h j).bind fun _ _ hb'' => Ends.modify hb''

theorem goes_fill (i : Nat) : Goes nodes (fill i) := by
  intro b hb
  unfold fill
  refine Ends.get_bind ?_
  dsimp only
  split
  next => exact (goes_makeEntries i b hb).bind fun _ _ hb' => Ends.modify hb'
  next => exact (goes_makeEntries i b hb).bind fun _ _ hb' => Ends.modify hb'
  next => exact goes_collect goes_makePair i b hb
  next => exact goes_collect goes_makePair i b hb
  next => exact goes_collect goes_make i b hb

theorem goes_fillLevels (fuel : Nat) : Goes nodes (fillLevels fuel) := by
  induction fuel with
  | zero => exact fun b hb => Ends.pure hb
  | succ fuel ih =>
      intro b hb
      unfold fillLevels
      refine Ends.get_bind ?_
      split
      next => exact Ends.pure hb
      next is _ =>
        refine Ends.modify_bind ?_
        refine Ends.bind (P := fun _ => StemsFrom nodes) (Ends.forM ?_ fun i _ => goes_fill i) ?_
        · exact hb
        · exact fun _ b' hb' => ih b' hb'

end Builder

/-- **The value of a document** is missing just for what is at fault in its nodes. -/
theorem Graph.document_ends (g : Graph) :
    Yields g.document (fun _ => True) (FaultOf g.nodes) := by
  unfold Graph.document
  refine Yields.bind (P := fun _ => True) ?_ fun _ _ => .ok trivial
  have hmake : Builder.Goes g.nodes (Builder.make g.root) := Builder.goes_make g.root
  have hall : Builder.Goes g.nodes (do
      let v ← Builder.make g.root
      Builder.fillLevels (g.nodes.size + 1)
      return v : Builder.Build Value) := fun b hb =>
    (hmake b hb).bind fun v b' hb' =>
      (Builder.goes_fillLevels _ b' hb').bind fun _ _ hb'' => Ends.pure hb''
  exact Yields.mono (hall _ (AllBecome.refl g.nodes)) (fun _ _ => trivial) fun _ hf => hf

end TestSkeleton.Yaml
