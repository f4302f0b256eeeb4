import TestSkeleton.Proofs.Yaml.Construction
import TestSkeleton.Proofs.Yaml.Node
import TestSkeleton.Proofs.Yaml.Plain

set_option autoImplicit false

/-! # Why documents cannot be read

A text that is no document is told of as malformed. Any other fault has its cause in the tokens of
the text (`Document.ofText?_ends`): a token that cannot be read, too many collections inside of each
other, a tag that is written, or a plain scalar without the value that its form asks for. So in a
document without written tags it is the plain scalars that a value can be missing for.
-/

namespace TestSkeleton.Yaml

open Text

/-- Why a text is not read as a document, by its tokens. -/
inductive DocumentFault (ts : Tokens) : Fault → Prop where
  | malformed : DocumentFault ts .malformed
  | token {f : Fault} (h : ts.fault = some f) : DocumentFault ts f
  | nesting (h : maxDepth ≤ openings ts.tokens) : DocumentFault ts .tooDeep
  /-- A written tag asks for a value that its node may not have. -/
  | tagged {handle : Option Text} {suffix : Text} {f : Fault}
    (h : Token.tag handle suffix ∈ ts.tokens) : DocumentFault ts f
  /-- A plain scalar, on which a line feed at the end would not count, lacks its value. -/
  | plain {t : Text} {f : Fault} (h : Token.scalar true t ∈ ts.tokens)
    (hf : dropSuffix? ['\n'] t = none → PlainFault t f) : DocumentFault ts f

variable {ts : Tokens} {nodes : Array Node} {f : Fault}

theorem ReadFault.documentFault (h : ReadFault ts f) : DocumentFault ts f := by
  cases h with
  | malformed => exact .malformed
  | token h => exact .token h
  | nesting h => exact .nesting h

/-- Only a written tag makes a mapping stand for a scalar. -/
theorem Node.IsFrom.tagged_of_mapping {n : Node} (h : n.IsFrom ts.tokens) (hmapping : n.IsMapping)
    (htag : n.tag.isCollection = false) : DocumentFault ts f := by
  obtain ⟨es, hes⟩ := hmapping
  cases h with
  | plain h => cases hes
  | text t => cases hes
  | empty => cases hes
  | sequence content => cases htag
  | mapping content => cases htag
  | tagged n h => exact .tagged h

/-- What is at fault in the nodes of tokens is at fault in the tokens. -/
theorem FaultOf.documentFault (h : FaultOf nodes f) (hnodes : ∀ n ∈ nodes, n.IsFrom ts.tokens) :
    DocumentFault ts f := by
  cases h with
  | malformed => exact .malformed
  | @scalar n t _ hn ht hf =>
      cases hnodes n hn with
      | @plain s h =>
          -- the scalar stands for its own text
          have hown : t = s := by
            cases ht with
            | own hown => exact (Content.scalar.inj hown).symm
            | other hmapping => obtain ⟨es, hes⟩ := hmapping; cases hes
            | empty hmapping => obtain ⟨es, hes⟩ := hmapping; cases hes
          subst hown
          exact .plain h fun hend => (ofScalar_ofPlain_eq_error_iff hend).mp hf
      | text s => cases hf
      | empty => cases hf
      | sequence content => cases hf; exact .malformed
      | mapping content => cases hf; exact .malformed
      | tagged n h => exact .tagged h
  | moment hn htag hmapping =>
      exact (hnodes _ hn).tagged_of_mapping hmapping (by rw [htag]; rfl)
  | chain hn hmapping htag => exact (hnodes _ hn).tagged_of_mapping hmapping htag

/-- **Every fault of a document has its cause in the tokens.** -/
theorem Document.ofText?_ends (t : Text) :
    Yields (Document.ofText? t) (fun _ => True) (DocumentFault (Tokens.ofText t)) := by
  have hgraph := (Graph.ofText?_ends t).mono (fun _ => id) fun _ hf => hf.documentFault
  unfold Document.ofText?
  refine hgraph.bind fun g hg => ?_
  cases g with
  | none => exact .ok trivial
  | some g =>
      have hvalue : Yields g.document (fun _ => True) (DocumentFault (Tokens.ofText t)) :=
        g.document_ends.mono (fun _ => id) fun _ hf => hf.documentFault (hg g rfl)
      exact hvalue.bind fun _ _ => .ok trivial

end TestSkeleton.Yaml
