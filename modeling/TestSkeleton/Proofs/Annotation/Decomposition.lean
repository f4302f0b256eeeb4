import Mathlib.Data.List.Basic
import TestSkeleton.Annotation.Tag
import TestSkeleton.Proofs.Text.Lines

set_option autoImplicit false

/-! # Gaps and blocks

The cleaned lines of a doc comment fall into blocks, one for each tag, with gaps before, between and
behind them. `IsBlock` says which lines make up which tag, `IsCutInto` cuts lines into gaps and
blocks, and `HasOpenBlock` is the one way in which they cannot be cut: behind some blocks a mark has
no expression before the next tag or the end. Every list of lines is of one of the two kinds
(`isCutInto_or_hasOpenBlock`), and reading follows either (`readTags_append_of_isCutInto`,
`readTags_openBlock_append`). So `extract` finds exactly the tags of the blocks, and fails exactly
on an open one (`extract_iff_blocks`).
-/

namespace TestSkeleton.Annotation

open Text

/-! ## Blocks -/

/-- The line goes on with an open tag: it is neither the expression nor the start of another tag. -/
def GoesOn (l : Text) : Prop := opensExpression l = false ∧ opensTag l = false

instance (l : Text) : Decidable (GoesOn l) := instDecidableAnd

/-- No line of a gap has a mark. -/
def IsGap (ls : List Text) : Prop := ∀ l ∈ ls, Mark.find? l = none

instance (ls : List Text) : Decidable (IsGap ls) := List.decidableBAll _ ls

/-- The lines start with a mark whose expression is not on its line, and all other lines go on with
the tag. -/
inductive IsOpenBlock : List Text → Mark → Prop
  | intro {l : Text} {middle : List Text} {m : Mark} (marked : Mark.find? l = some m)
      (unopened : opensExpression (strip m.rest) = false) (goesOn : ∀ x ∈ middle, GoesOn x) :
      IsOpenBlock (l :: middle) m

/-- The lines of a tag. -/
inductive IsBlock : List Text → Tag → Prop
  /-- The expression stands on the line of the mark. -/
  | onOneLine {l : Text} {m : Mark} (marked : Mark.find? l = some m)
      (opens : opensExpression (strip m.rest) = true) :
      IsBlock [l] { note := m.note, preface := [], expression := strip m.rest, raw := unlines [l] }
  /-- The expression stands on the last line, and all that is not empty before it is preface. -/
  | onLines {l e : Text} {middle : List Text} {m : Mark} (isOpen : IsOpenBlock (l :: middle) m)
      (opens : opensExpression e = true) :
      IsBlock (l :: middle ++ [e])
        { note := m.note
          preface := (strip m.rest :: middle).filter (!·.isEmpty)
          expression := e
          raw := unlines (l :: middle ++ [e]) }

/-- The lines are gaps and the blocks of the tags, in this order. -/
inductive IsCutInto : List Text → List Tag → Prop
  | gap {gap : List Text} (isGap : IsGap gap) : IsCutInto gap []
  | block {gap block ls : List Text} {t : Tag} {ts : List Tag} (isGap : IsGap gap)
      (isBlock : IsBlock block t) (rest : IsCutInto ls ts) :
      IsCutInto (gap ++ block ++ ls) (t :: ts)

/-- Behind lines that can be cut, there is an open block that nothing completes: another tag or the
end of the lines follows. The error shows the lines of that block. -/
inductive HasOpenBlock : List Text → MissingExpression → Prop
  | intro {before block rest : List Text} {ts : List Tag} {m : Mark} (cut : IsCutInto before ts)
      (isOpen : IsOpenBlock block m) (ends : ∀ l ∈ rest.head?, opensTag l = true) :
      HasOpenBlock (before ++ block ++ rest) ⟨strip (unlines block)⟩

/-! ## Reading gaps and blocks -/

theorem readTags_gap_append {gap : List Text} (h : IsGap gap) (ls : List Text) :
    readTags none (gap ++ ls) = readTags none ls := by
  induction gap with
  | nil => rfl
  | cons l gap ih =>
      obtain ⟨hl, hgap⟩ := List.forall_mem_cons.mp h
      rw [List.cons_append, readTags, hl]
      exact ih hgap

/-- The open tag behind the lines of its block. -/
def OpenTag.addLines (o : OpenTag) (ls : List Text) : OpenTag :=
  ⟨o.note, o.preface ++ ls.filter (!·.isEmpty), o.lines ++ ls⟩

theorem OpenTag.addLines_cons (o : OpenTag) (l : Text) (ls : List Text) :
    o.addLines (l :: ls) = (o.addLine l).addLines ls := by
  cases l <;> simp [addLines, addLine]

/-- Lines that go on with a tag are added to it. -/
theorem readTags_some_append {middle : List Text} (h : ∀ x ∈ middle, GoesOn x) (o : OpenTag)
    (ls : List Text) : readTags (some o) (middle ++ ls) = readTags (some (o.addLines middle)) ls := by
  induction middle generalizing o with
  | nil => simp [OpenTag.addLines]
  | cons x middle ih =>
      obtain ⟨⟨hexpr, htag⟩, hmiddle⟩ := List.forall_mem_cons.mp h
      rw [List.cons_append, readTags, htag, hexpr, OpenTag.addLines_cons]
      exact ih hmiddle _

/-- The tag of an open block, before whatever follows. -/
theorem readTags_openBlock {l : Text} {middle : List Text} {m : Mark}
    (h : IsOpenBlock (l :: middle) m) (ls : List Text) :
    readTags none (l :: middle ++ ls)
      = readTags
          (some ⟨m.note, (strip m.rest :: middle).filter (!·.isEmpty), l :: middle⟩) ls := by
  cases h with
  | intro hmark hopens hmiddle =>
      have hopen : (m.open l).addLines middle
          = ⟨m.note, (strip m.rest :: middle).filter (!·.isEmpty), l :: middle⟩ := by
        cases hrest : strip m.rest <;> simp [Mark.open, OpenTag.addLines, hrest]
      rw [List.cons_append, readTags, hmark]
      simp only [hopens]
      rw [← hopen]
      exact readTags_some_append hmiddle _ ls

theorem opensTag_eq_false_of_opensExpression {l : Text} (h : opensExpression l = true) :
    opensTag l = false := by
  have hhead : l.head? = some '(' := by simpa [opensExpression] using h
  rw [opensTag, hhead]
  rfl

/-- **A block is read as its tag**, before whatever follows. -/
theorem readTags_block_append {block : List Text} {t : Tag} (h : IsBlock block t)
    (ls : List Text) : readTags none (block ++ ls) = (readTags none ls).map (t :: ·) := by
  cases h with
  | @onOneLine l m hmark hopens =>
      rw [List.singleton_append, readTags, hmark, unlines_singleton]
      simp only [hopens, if_true]
  | @onLines l e middle m hopen hopens =>
      rw [List.append_assoc, readTags_openBlock hopen, List.singleton_append, readTags,
        opensTag_eq_false_of_opensExpression hopens, hopens]
      rfl

/-- **Lines that can be cut are read as the tags of their blocks**, before whatever follows. -/
theorem readTags_append_of_isCutInto {ls : List Text} {ts : List Tag} (h : IsCutInto ls ts)
    (rest : List Text) : readTags none (ls ++ rest) = (readTags none rest).map (ts ++ ·) := by
  induction h with
  | gap hgap =>
      rw [readTags_gap_append hgap]
      cases readTags none rest <;> rfl
  | block hgap hblock _ ih =>
      rw [List.append_assoc, List.append_assoc, readTags_gap_append hgap,
        readTags_block_append hblock, ih]
      cases readTags none rest <;> rfl

/-- **An open block is an error**, if another tag or the end follows. -/
theorem readTags_openBlock_append {block rest : List Text} {m : Mark} (h : IsOpenBlock block m)
    (hrest : ∀ l ∈ rest.head?, opensTag l = true) :
    readTags none (block ++ rest) = .error ⟨strip (unlines block)⟩ := by
  cases block with
  | nil => cases h
  | cons l middle =>
      rw [readTags_openBlock h]
      cases rest with
      | nil => rfl
      | cons r rest =>
          rw [readTags, if_pos (hrest r rfl)]
          rfl

theorem readTags_eq_ok_of_isCutInto {ls : List Text} {ts : List Tag} (h : IsCutInto ls ts) :
    readTags none ls = .ok ts := by
  have hread := readTags_append_of_isCutInto h []
  rwa [List.append_nil, show readTags none [] = .ok [] from rfl, Except.map,
    List.append_nil] at hread

theorem readTags_eq_error_of_hasOpenBlock {ls : List Text} {e : MissingExpression}
    (h : HasOpenBlock ls e) : readTags none ls = .error e := by
  cases h with
  | intro hcut hopen hends =>
      rw [List.append_assoc, readTags_append_of_isCutInto hcut,
        readTags_openBlock_append hopen hends]
      rfl

/-! ## All lines are cut, or have an open block -/

/-- What starts with a mark without its expression is a block, or an open block that nothing
completes. The first line that does not go on with the tag decides. -/
theorem block_or_openBlock {l : Text} {m : Mark} (hmark : Mark.find? l = some m)
    (hopens : opensExpression (strip m.rest) = false) (ls : List Text) :
    (∃ middle t rest, ls = middle ++ rest ∧ IsBlock (l :: middle) t)
      ∨ ∃ middle rest, ls = middle ++ rest ∧ IsOpenBlock (l :: middle) m
          ∧ ∀ x ∈ rest.head?, opensTag x = true := by
  cases hfind : ls.find? fun x => opensExpression x || opensTag x with
  | none =>
      have hall : ∀ x ∈ ls, GoesOn x := by simpa [GoesOn] using hfind
      exact Or.inr ⟨ls, [], by simp, .intro hmark hopens hall, by simp⟩
  | some e =>
      obtain ⟨he, middle, rest, rfl, hmiddle⟩ := List.find?_eq_some_iff_append.mp hfind
      have hopen : IsOpenBlock (l :: middle) m :=
        .intro hmark hopens fun x hx => by simpa [GoesOn] using hmiddle x hx
      by_cases hexpr : opensExpression e = true
      · exact Or.inl ⟨middle ++ [e], _, rest, by simp, .onLines hopen hexpr⟩
      · exact Or.inr ⟨middle, e :: rest, rfl, hopen, by simpa [hexpr] using he⟩

/-- Every list of lines is a gap, or starts with a gap behind which there is a block or an open block
that nothing completes. -/
theorem first_block_cases (ls : List Text) :
    IsGap ls
      ∨ (∃ gap l middle t rest, ls = gap ++ (l :: middle) ++ rest ∧ IsGap gap
          ∧ IsBlock (l :: middle) t)
      ∨ ∃ gap block m rest, ls = gap ++ block ++ rest ∧ IsGap gap ∧ IsOpenBlock block m
          ∧ ∀ x ∈ rest.head?, opensTag x = true := by
  cases hfind : ls.find? fun l => (Mark.find? l).isSome with
  | none => exact Or.inl (by simpa [IsGap] using hfind)
  | some l =>
      obtain ⟨hl, gap, rest, rfl, hgap⟩ := List.find?_eq_some_iff_append.mp hfind
      obtain ⟨m, hmark⟩ := Option.isSome_iff_exists.mp hl
      have hgap : IsGap gap := fun x hx => by simpa using hgap x hx
      by_cases hopens : opensExpression (strip m.rest) = true
      · exact Or.inr (Or.inl ⟨gap, l, [], _, rest, by simp, hgap, .onOneLine hmark hopens⟩)
      · rcases block_or_openBlock hmark (by simpa using hopens) rest with
          ⟨middle, t, rest, rfl, hblock⟩ | ⟨middle, rest, rfl, hopen, hends⟩
        · exact Or.inr (Or.inl ⟨gap, l, middle, t, rest, by simp, hgap, hblock⟩)
        · exact Or.inr (Or.inr ⟨gap, l :: middle, m, rest, by simp, hgap, hopen, hends⟩)

/-- An open block stays one behind a gap and a block. -/
theorem HasOpenBlock.behind_block {gap block ls : List Text} {t : Tag} {e : MissingExpression}
    (hgap : IsGap gap) (hblock : IsBlock block t) (h : HasOpenBlock ls e) :
    HasOpenBlock (gap ++ block ++ ls) e := by
  cases h with
  | intro hcut hopen hends =>
      simpa using HasOpenBlock.intro (.block hgap hblock hcut) hopen hends

/-- **Lines can be cut into gaps and blocks, or have an open block** that nothing completes. -/
theorem isCutInto_or_hasOpenBlock (ls : List Text) :
    (∃ ts, IsCutInto ls ts) ∨ ∃ e, HasOpenBlock ls e := by
  induction hn : ls.length using Nat.strongRecOn generalizing ls with
  | ind n ih =>
      rcases first_block_cases ls with hgap
        | ⟨gap, l, middle, t, rest, rfl, hgap, hblock⟩
        | ⟨gap, block, m, rest, rfl, hgap, hopen, hends⟩
      · exact Or.inl ⟨[], .gap hgap⟩
      · -- what follows the first block is shorter
        have hshort : rest.length < n := by
          rw [← hn]
          simp
          omega
        rcases ih rest.length hshort rest rfl with ⟨ts, hrest⟩ | ⟨e, hrest⟩
        · exact Or.inl ⟨t :: ts, .block hgap hblock hrest⟩
        · exact Or.inr ⟨e, hrest.behind_block hgap hblock⟩
      · exact Or.inr ⟨_, .intro (.gap hgap) hopen hends⟩

/-- Lines that can be read can be cut into gaps and the blocks of their tags. -/
theorem isCutInto_of_readTags {ls : List Text} {ts : List Tag} (h : readTags none ls = .ok ts) :
    IsCutInto ls ts := by
  rcases isCutInto_or_hasOpenBlock ls with ⟨us, hcut⟩ | ⟨e, hopen⟩
  · rw [readTags_eq_ok_of_isCutInto hcut] at h
    cases h
    exact hcut
  · rw [readTags_eq_error_of_hasOpenBlock hopen] at h
    cases h

/-- Each tag has its block among the lines. -/
theorem IsCutInto.exists_block {ls : List Text} {ts : List Tag} (h : IsCutInto ls ts) {t : Tag}
    (ht : t ∈ ts) : ∃ block, IsBlock block t ∧ block ⊆ ls := by
  induction h with
  | gap => cases ht
  | @block gap block ls u us hgap hblock hrest ih =>
      rcases List.mem_cons.mp ht with rfl | ht
      · exact ⟨block, hblock, fun l hl => by simp [hl]⟩
      · obtain ⟨block', hblock', hsub⟩ := ih ht
        exact ⟨block', hblock', fun l hl => List.mem_append_right _ (hsub hl)⟩

/-- **The lines of a doc comment, exactly.** The tags of a doc comment are those of the blocks that
its cleaned lines can be cut into, and reading it fails just if its cleaned lines have an open block
instead, with the lines of that block. -/
theorem extract_iff_blocks (doc : Text) :
    (∀ ts, extract doc = .ok ts ↔ IsCutInto (cleanLines doc) ts) ∧
    (∀ e, extract doc = .error e ↔ HasOpenBlock (cleanLines doc) e) := by
  have hcases := isCutInto_or_hasOpenBlock (cleanLines doc)
  constructor
  · intro ts
    refine ⟨fun hread => ?_, readTags_eq_ok_of_isCutInto⟩
    rw [extract] at hread
    rcases hcases with ⟨ts', hcut⟩ | ⟨e, hopen⟩
    · rw [readTags_eq_ok_of_isCutInto hcut] at hread
      cases hread
      exact hcut
    · rw [readTags_eq_error_of_hasOpenBlock hopen] at hread
      cases hread
  · intro e
    refine ⟨fun hread => ?_, readTags_eq_error_of_hasOpenBlock⟩
    rw [extract] at hread
    rcases hcases with ⟨ts, hcut⟩ | ⟨e', hopen⟩
    · rw [readTags_eq_ok_of_isCutInto hcut] at hread
      cases hread
    · rw [readTags_eq_error_of_hasOpenBlock hopen] at hread
      cases hread
      exact hopen

end TestSkeleton.Annotation
