import TestSkeleton.Proofs.Annotation.Decomposition
import TestSkeleton.Proofs.Annotation.Line

set_option autoImplicit false

/-! # Where the marked lines go

A mark can stand anywhere on its line, while a tag that waits for its expression takes every line
that starts neither with a parenthesis nor with the sign of another tag for a line of its preface. So
a line with a mark either starts a tag or belongs to the tag before it (`IsCutInto.filter_isMarked`),
and the tags of a doc comment are as many as its marked lines without those inside of other tags
(`marked_lines_of_extract`).
-/

namespace TestSkeleton.Annotation

open Text

/-- Whether a line has a mark. -/
def isMarked (l : Text) : Bool := (Mark.find? l).isSome

/-! ## The lines of a tag -/

/-- The lines that a tag was read from. -/
def Tag.lines (t : Tag) : List Text := splitOn '\n' t.raw

/-- The line of the mark of a tag. -/
def Tag.firstLine (t : Tag) : Text := t.lines.headD []

/-- The marked lines inside of a tag, behind the line of its own mark. -/
def Tag.innerMarks (t : Tag) : List Text := t.lines.tail.filter isMarked

section Lines

variable {block : List Text} {t : Tag}

theorem IsBlock.raw_eq (h : IsBlock block t) : t.raw = unlines block := by
  cases h <;> rfl

theorem IsBlock.lines_eq (h : IsBlock block t) (hlines : ∀ l ∈ block, IsLine l) :
    t.lines = block := by
  have hne : block ≠ [] := by cases h <;> simp
  rw [Tag.lines, h.raw_eq, splitOn_unlines hne hlines]

theorem isMarked_of_find? {l : Text} {m : Mark} (h : Mark.find? l = some m) :
    isMarked l = true := by
  rw [isMarked, h]
  rfl

theorem ne_nil_of_isMarked {l : Text} (h : isMarked l = true) : l ≠ [] := by
  rintro rfl
  cases h

/-- A block starts with its marked line. The lines behind that one do not start with the sign of a
tag, and all but the empty ones are the preface and the expression. -/
theorem IsBlock.exists_cons (h : IsBlock block t) :
    ∃ l further, block = l :: further ∧ isMarked l = true
      ∧ ∀ x ∈ further, opensTag x = false ∧ (x ≠ [] → x ∈ t.preface ∨ x = t.expression) := by
  cases h with
  | @onOneLine l m hmark => exact ⟨l, [], rfl, isMarked_of_find? hmark, by simp⟩
  | @onLines l e middle m hopen hexpr =>
      cases hopen with
      | intro hmark hunopened hmiddle =>
          refine ⟨l, middle ++ [e], rfl, isMarked_of_find? hmark, fun x hx => ?_⟩
          -- the lines before the last one are preface, and that one is the expression
          rcases List.mem_append.mp hx with hx | hx
          · refine ⟨(hmiddle x hx).2, fun hne => Or.inl ?_⟩
            exact List.mem_filter.mpr ⟨List.mem_cons_of_mem _ hx, by simpa using hne⟩
          · obtain rfl := List.mem_singleton.mp hx
            exact ⟨opensTag_eq_false_of_opensExpression hexpr, fun _ => Or.inr rfl⟩

/-- Of the lines of a block, the first one is marked, and maybe others behind it. -/
theorem IsBlock.filter_isMarked (h : IsBlock block t) (hlines : ∀ l ∈ block, IsLine l) :
    block.filter isMarked = t.firstLine :: t.innerMarks := by
  have hblock := h.lines_eq hlines
  obtain ⟨l, further, rfl, hl, -⟩ := h.exists_cons
  rw [Tag.firstLine, Tag.innerMarks, hblock, List.filter_cons_of_pos hl]
  rfl

/-- What stands inside of a tag is part of it. -/
theorem IsBlock.of_mem_innerMarks (h : IsBlock block t) (hlines : ∀ l ∈ block, IsLine l) {x : Text}
    (hx : x ∈ t.innerMarks) : opensTag x = false ∧ (x ∈ t.preface ∨ x = t.expression) := by
  have hblock := h.lines_eq hlines
  obtain ⟨l, further, rfl, -, hfurther⟩ := h.exists_cons
  rw [Tag.innerMarks, hblock, List.tail_cons, List.mem_filter] at hx
  obtain ⟨htag, hpart⟩ := hfurther x hx.1
  exact ⟨htag, hpart (ne_nil_of_isMarked hx.2)⟩

end Lines

/-! ## The marked lines of a doc comment -/

theorem filter_isMarked_of_isGap {gap : List Text} (h : IsGap gap) : gap.filter isMarked = [] := by
  refine List.filter_eq_nil_iff.mpr fun l hl => ?_
  rw [isMarked, h l hl]
  simp

/-- **Each marked line starts a tag or stands inside of one**, in the order of the tags. -/
theorem IsCutInto.filter_isMarked {ls : List Text} {ts : List Tag} (h : IsCutInto ls ts)
    (hlines : ∀ l ∈ ls, IsLine l) :
    ls.filter isMarked = ts.flatMap fun t => t.firstLine :: t.innerMarks := by
  induction h with
  | gap hgap => exact filter_isMarked_of_isGap hgap
  | @block gap block ls t ts hgap hblock hrest ih =>
      have hlines' : ∀ l ∈ block, IsLine l := fun l hl => hlines l (by simp [hl])
      have hrest' : ∀ l ∈ ls, IsLine l := fun l hl => hlines l (by simp [hl])
      rw [List.filter_append, List.filter_append, filter_isMarked_of_isGap hgap,
        hblock.filter_isMarked hlines', ih hrest', List.nil_append, List.flatMap_cons]

theorem length_flatMap_firstLine (ts : List Tag) :
    (ts.flatMap fun t => t.firstLine :: t.innerMarks).length
      = ts.length + (ts.flatMap Tag.innerMarks).length := by
  induction ts with
  | nil => rfl
  | cons t ts ih =>
      simp only [List.flatMap_cons, List.length_append, List.length_cons, ih]
      omega

/-- **No mark is lost.** The marked lines of a doc comment that can be read are the first lines of its
tags, each with the marked lines inside of the tag behind it. So there are as many tags as marked
lines that are not inside of a tag. What is inside of a tag does not start with the sign of a tag, and
it is kept as a line of the preface or as the expression. -/
theorem marked_lines_of_extract {doc : Text} {ts : List Tag} (h : extract doc = .ok ts) :
    (cleanLines doc).filter isMarked = (ts.flatMap fun t => t.firstLine :: t.innerMarks)
      ∧ (cleanLines doc).countP isMarked = ts.length + (ts.flatMap Tag.innerMarks).length
      ∧ ∀ t ∈ ts, ∀ l ∈ t.innerMarks, opensTag l = false ∧ (l ∈ t.preface ∨ l = t.expression) := by
  have hcut : IsCutInto (cleanLines doc) ts := isCutInto_of_readTags h
  have hlines : ∀ l ∈ cleanLines doc, IsLine l := fun l hl => (trimmed_of_mem_cleanLines hl).2
  have hfilter := hcut.filter_isMarked hlines
  refine ⟨hfilter, ?_, ?_⟩
  · rw [List.countP_eq_length_filter, hfilter]
    exact length_flatMap_firstLine ts
  · intro t ht l hl
    obtain ⟨block, hblock, hsub⟩ := hcut.exists_block ht
    exact hblock.of_mem_innerMarks (fun l hl => hlines l (hsub hl)) hl

/-! ## Marks in a preface -/

/-- A doc comment with four marks, two of them inside of the first tag. -/
def quotingComment : Text := "@assert Sum.\nas @assert (1) has\n(2) == @assert\nand @assert (3)"

/-- The tag with one mark in its preface and one in its expression. -/
def quotingTag : Tag :=
  { preface := ["Sum.", "as @assert (1) has"], expression := "(2) == @assert",
    raw := "@assert Sum.\nas @assert (1) has\n(2) == @assert" }

/-- The tag behind it, whose mark does not start its line. -/
def lateTag : Tag := { expression := "(3)", raw := "and @assert (3)" }

theorem extract_quotingComment : extract quotingComment = .ok [quotingTag, lateTag] := by
  decide +kernel

theorem innerMarks_quotingTag :
    quotingTag.innerMarks = ["as @assert (1) has", "(2) == @assert"] := by
  decide +kernel

theorem quotingComment_marked :
    extract quotingComment = .ok [quotingTag, lateTag]
      ∧ (cleanLines quotingComment).countP isMarked = 2 + 2
      ∧ "as @assert (1) has".toList ∈ quotingTag.innerMarks
      ∧ opensTag "as @assert (1) has" = false := by
  have hmem : "as @assert (1) has".toList ∈ quotingTag.innerMarks := by
    rw [innerMarks_quotingTag]
    exact List.mem_cons_self
  obtain ⟨-, hcount, hinner⟩ := marked_lines_of_extract extract_quotingComment
  refine ⟨extract_quotingComment, ?_, hmem, (hinner quotingTag List.mem_cons_self _ hmem).1⟩
  rw [hcount, List.flatMap_cons, innerMarks_quotingTag]
  decide +kernel

/-- A marked line is the first line of no tag, and there are fewer tags than marked lines. -/
theorem quotingComment_keeps_mark_inside :
    extract quotingComment = .ok [quotingTag, lateTag]
      ∧ "as @assert (1) has".toList ∈ cleanLines quotingComment
      ∧ isMarked "as @assert (1) has" = true
      ∧ (∀ t ∈ [quotingTag, lateTag], t.firstLine ≠ "as @assert (1) has")
      ∧ [quotingTag, lateTag].length < (cleanLines quotingComment).countP isMarked :=
  ⟨extract_quotingComment, by decide, by decide, by decide, by decide +kernel⟩

end TestSkeleton.Annotation
