import TestSkeleton.Proofs.Annotation.RoundTrip

set_option autoImplicit false

/-! # Decoration of comment blocks

A doc comment can be a comment block, where each line stands behind a column of stars and a line of
its own opens and closes the block. Cleaning takes the decoration away and nothing else
(`cleanLine_of_decoratedAs`), if the lines do not look decorated themselves, and of the two lines
around the others only blank lines are left, which are not seen (`readTags_append_empty`). So a
comment block is read as the lines in it, with the same tags or the same error
(`extract_commentBlock`).
-/

namespace TestSkeleton.Annotation

open Text

/-- The text consists of spaces and tabs. -/
def IsPadding (t : Text) : Prop := ∀ c ∈ t, c = ' ' ∨ c = '\t'

instance (t : Text) : Decidable (IsPadding t) := List.decidableBAll _ t

/-- A line that does not look decorated. It may be blank, and it may end like a comment block. -/
structure IsBare (l : Text) : Prop where
  isLine : IsLine l
  noStar : startsWith "*" (strip l) = false
  noOpening : startsWith "/**" (strip l) = false

instance (l : Text) : Decidable (IsBare l) :=
  decidable_of_iff
    (IsLine l ∧ startsWith "*" (strip l) = false ∧ startsWith "/**" (strip l) = false)
    ⟨fun ⟨h₁, h₂, h₃⟩ => ⟨h₁, h₂, h₃⟩, fun ⟨h₁, h₂, h₃⟩ => ⟨h₁, h₂, h₃⟩⟩

/-- The second text shows the line behind stars, with spaces and tabs before the stars as one
pleases and at least one of them behind the stars. -/
inductive DecoratedAs (l : Text) : Text → Prop
  | intro (pad gap : Text) (n : Nat) (pads : IsPadding pad) (gaps : IsPadding gap)
      (parted : gap ≠ []) : DecoratedAs l (pad ++ behindStars n gap l)

/-- The text is a comment block around the lines. -/
inductive CommentBlock (ls : List Text) : Text → Prop
  | intro (first last : Text) {ds : List Text} (opened : IsPadding first)
      (decorated : List.Forall₂ DecoratedAs ls ds) (closed : IsPadding last) :
      CommentBlock ls (unlines ((first ++ "/**") :: (ds ++ [last ++ "*/"])))

section Padding

variable {t : Text}

theorem IsPadding.allBlank (h : IsPadding t) : AllBlank t := by
  intro c hc
  rcases h c hc with rfl | rfl <;> rfl

theorem IsPadding.isLine (h : IsPadding t) : IsLine t := by
  intro c hc
  rcases h c hc with rfl | rfl <;> rfl

end Padding

section Cleaning

variable {l d : Text} {ls ds : List Text}

theorem startsWith_star_cons (c : Char) (t : Text) : startsWith "*" (c :: t) = ('*' == c) := by
  show (if '*' == c then some t else none).isSome = ('*' == c)
  cases '*' == c <;> rfl

/-- Of a bare line, cleaning takes only the end of a comment block away. -/
theorem cleanLine_of_isBare (h : IsBare l) : cleanLine l = strip (withoutClosing (strip l)) := by
  have hopening : withoutOpening (strip l) = strip l := by
    rw [withoutOpening, dropPrefix?_of_startsWith_eq_false h.noOpening]
    rfl
  -- stars are taken away last, and what stands before an ending has no other first character
  have hstar : startsWith "*" (withoutClosing (strip l)) = false := by
    rw [withoutClosing]
    cases hclosing : dropSuffix? "*/" (strip l) with
    | none => exact h.noStar
    | some u =>
        have hl := dropSuffix?_eq_some_iff.mp hclosing
        cases u with
        | nil => rfl
        | cons c u =>
            have hstar := h.noStar
            rw [hl, List.cons_append, startsWith_star_cons] at hstar
            rwa [Option.getD_some, startsWith_star_cons]
  rw [cleanLine_eq, hopening, dropWhile_star_of_noStar hstar]

/-- **Cleaning takes the decoration away** and nothing else. -/
theorem cleanLine_of_decoratedAs (h : IsBare l) (hd : DecoratedAs l d) :
    cleanLine d = cleanLine l := by
  cases hd with
  | intro pad gap n hpad hgap hne =>
      rw [cleanLine_behindStars hpad.allBlank hgap.allBlank hne, cleanLine_of_isBare h]

theorem DecoratedAs.isLine (h : DecoratedAs l d) (hl : IsLine l) : IsLine d := by
  cases h with
  | intro pad gap n hpad hgap _ =>
      have hstars : IsLine (List.replicate (n + 1) '*') := by
        intro c hc
        rw [List.eq_of_mem_replicate hc]
        rfl
      exact isLine_append.mpr ⟨hpad.isLine,
        isLine_append.mpr ⟨hstars, isLine_append.mpr ⟨hgap.isLine, hl⟩⟩⟩

theorem map_cleanLine_of_decoratedAs (h : List.Forall₂ DecoratedAs ls ds)
    (hls : ∀ l ∈ ls, IsBare l) : ds.map cleanLine = ls.map cleanLine := by
  induction h with
  | nil => rfl
  | cons hd _ ih =>
      obtain ⟨hl, hrest⟩ := List.forall_mem_cons.mp hls
      rw [List.map_cons, List.map_cons, cleanLine_of_decoratedAs hl hd, ih hrest]

theorem isLine_of_decoratedAs (h : List.Forall₂ DecoratedAs ls ds) (hls : ∀ l ∈ ls, IsBare l) :
    ∀ d ∈ ds, IsLine d := by
  induction h with
  | nil => simp
  | cons hd _ ih =>
      obtain ⟨hl, hrest⟩ := List.forall_mem_cons.mp hls
      exact List.forall_mem_cons.mpr ⟨hd.isLine hl.isLine, ih hrest⟩

end Cleaning

/-- **A comment block is read as the lines in it.** Either way the tags are the same, with their raw
lines, or the error is, with the lines that it shows. -/
theorem extract_commentBlock {ls : List Text} {doc : Text} (hls : ∀ l ∈ ls, IsBare l)
    (hdoc : CommentBlock ls doc) : extract doc = extract (unlines ls) := by
  cases hdoc with
  | @intro first last ds hfirst hds hlast =>
      have hlines : ∀ d ∈ (first ++ "/**") :: (ds ++ [last ++ "*/"]), IsLine d := by
        refine List.forall_mem_cons.mpr ⟨isLine_append.mpr ⟨hfirst.isLine, by decide⟩, ?_⟩
        refine List.forall_mem_append.mpr ⟨isLine_of_decoratedAs hds hls, ?_⟩
        exact List.forall_mem_singleton.mpr (isLine_append.mpr ⟨hlast.isLine, by decide⟩)
      have hopening : cleanLine (first ++ "/**") = [] := cleanLine_append_left hfirst.allBlank
      have hclosing : cleanLine (last ++ "*/") = [] := cleanLine_append_left hlast.allBlank
      calc extract (unlines ((first ++ "/**") :: (ds ++ [last ++ "*/"])))
          = readTags none ([] :: (ls.map cleanLine ++ [[]])) := by
            rw [extract_unlines_eq hlines, List.map_cons, List.map_append, List.map_singleton,
              hopening, hclosing, map_cleanLine_of_decoratedAs hds hls]
        _ = readTags none (ls.map cleanLine) := by
            rw [readTags_none_unmarked rfl, readTags_append_empty]
        _ = extract (unlines ls) := (extract_unlines_eq fun l hl => (hls l hl).isLine).symm

/-- Lines with a tag and a mark that nothing completes. Blank lines, and lines that end like a
comment block, are among them. -/
def unfinishedLines : List Text :=
  ["The sum. */", "", "\t@assert-slow Adds two numbers.", "", " (2, 3) == 5 */", "@assert",
    "No expression. */", " "]

/-- The lines as a comment block with stars of all kinds. -/
def unfinishedComment : Text :=
  unlines ["/**", "\t * The sum. */", " ** ", "\t*\t\t@assert-slow Adds two numbers.", "***\t",
    " *  (2, 3) == 5 */", "\t * @assert", " **\tNo expression. */", "*  ", "\t */"]

theorem unfinishedComment_block : CommentBlock unfinishedLines unfinishedComment := by
  have hds : List.Forall₂ DecoratedAs unfinishedLines
      ["\t * The sum. */", " ** ", "\t*\t\t@assert-slow Adds two numbers.", "***\t",
        " *  (2, 3) == 5 */", "\t * @assert", " **\tNo expression. */", "*  "] :=
    .cons (.intro "\t " " " 0 (by decide) (by decide) (by decide))
    (.cons (.intro " " " " 1 (by decide) (by decide) (by decide))
    (.cons (.intro "\t" "\t" 0 (by decide) (by decide) (by decide))
    (.cons (.intro "" "\t" 2 (by decide) (by decide) (by decide))
    (.cons (.intro " " " " 0 (by decide) (by decide) (by decide))
    (.cons (.intro "\t " " " 0 (by decide) (by decide) (by decide))
    (.cons (.intro " " "\t" 1 (by decide) (by decide) (by decide))
    (.cons (.intro "" " " 0 (by decide) (by decide) (by decide)) .nil)))))))
  exact .intro [] "\t " (by decide) hds (by decide)

theorem unfinishedComment_read :
    (∀ l ∈ unfinishedLines, IsBare l) ∧ CommentBlock unfinishedLines unfinishedComment
      ∧ extract (unlines unfinishedLines) = .error ⟨"@assert\nNo expression."⟩
      ∧ extract unfinishedComment = extract (unlines unfinishedLines) := by
  have hbare : ∀ l ∈ unfinishedLines, IsBare l := by decide
  exact ⟨hbare, unfinishedComment_block, by decide,
    extract_commentBlock hbare unfinishedComment_block⟩

end TestSkeleton.Annotation
