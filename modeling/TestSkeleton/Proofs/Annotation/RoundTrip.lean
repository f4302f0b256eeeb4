import TestSkeleton.Annotation.Tag
import TestSkeleton.Proofs.Annotation.Line

set_option autoImplicit false

/-! # Reading back what is written

`Written` lists the ways to write tags as lines: the expression next to the mark, or behind lines of
preface, with blank lines in between and prose all around. `LaidOut` puts such lines into a doc
comment, indented as one pleases or as a comment block. `extract` finds the tags again in every doc
comment of this kind, whatever the way they were written (`extract_of_written`).
-/

namespace TestSkeleton.Annotation

open Text

/-! ## Tags that can be written -/

/-- What the author of a doc comment says with a tag: the note, the preface and the expression. -/
def Tag.content (t : Tag) : Option Text × List Text × Text := (t.note, t.preface, t.expression)

/-- A line of preface is plain text that neither closes its tag nor starts another one. -/
structure IsPrefaceLine (p : Text) : Prop where
  plain : IsPlain p
  notExpression : opensExpression p = false
  notTag : opensTag p = false

/-- A test expression is plain text that starts with a parenthesis. -/
structure IsExpression (e : Text) : Prop where
  plain : IsPlain e
  opens : opensExpression e = true

/-- A tag whose parts can stand on lines of their own. -/
structure Tag.IsWritable (t : Tag) : Prop where
  note : ∀ n ∈ t.note, IsNote n
  preface : ∀ p ∈ t.preface, IsPrefaceLine p
  expression : IsExpression t.expression

instance (p : Text) : Decidable (IsPrefaceLine p) :=
  decidable_of_iff (IsPlain p ∧ opensExpression p = false ∧ opensTag p = false)
    ⟨fun ⟨h₁, h₂, h₃⟩ => ⟨h₁, h₂, h₃⟩, fun ⟨h₁, h₂, h₃⟩ => ⟨h₁, h₂, h₃⟩⟩

instance (e : Text) : Decidable (IsExpression e) :=
  decidable_of_iff (IsPlain e ∧ opensExpression e = true)
    ⟨fun ⟨h₁, h₂⟩ => ⟨h₁, h₂⟩, fun ⟨h₁, h₂⟩ => ⟨h₁, h₂⟩⟩

instance (t : Tag) : Decidable t.IsWritable :=
  decidable_of_iff ((∀ n ∈ t.note, IsNote n) ∧ (∀ p ∈ t.preface, IsPrefaceLine p)
      ∧ IsExpression t.expression)
    ⟨fun ⟨h₁, h₂, h₃⟩ => ⟨h₁, h₂, h₃⟩, fun ⟨h₁, h₂, h₃⟩ => ⟨h₁, h₂, h₃⟩⟩

theorem IsExpression.opensTag_eq_false {e : Text} (h : IsExpression e) : opensTag e = false := by
  have hhead : e.head? = some '(' := by simpa [opensExpression] using h.opens
  rw [opensTag, hhead]
  rfl

/-! ## Layouts -/

/-- How the lines of a doc comment are laid out: as they are, or behind the stars of a comment
block. -/
inductive Style where
  | plain
  | block
deriving DecidableEq, Repr

/-- A line as it stands in a doc comment of the style. -/
def Style.decorate : Style → Text → Text
  | .plain, l => l
  | .block, l => starLine l

/-- What is left of a decorated line when it is cleaned. -/
def Style.clean (y : Style) (l : Text) : Text := cleanLine (y.decorate l)

/-- Spaces in front of a line. -/
def indent (n : Nat) (l : Text) : Text := List.replicate n ' ' ++ l

/-- The second line shows the first one in a doc comment of the style. -/
inductive LineLaidOut : Style → Text → Text → Prop
  | plain (n : Nat) (l : Text) : LineLaidOut .plain l (indent n l)
  | star (m n : Nat) (l : Text) : LineLaidOut .block l (indent m (starLine (indent n l)))
  /-- Behind the star of an empty line the space may be missing. -/
  | bareStar (m : Nat) : LineLaidOut .block [] (indent m " *")

/-- The doc comment shows the lines in the style. -/
inductive LaidOut : Style → List Text → Text → Prop
  | plain {ls ds : List Text} (h : List.Forall₂ (LineLaidOut .plain) ls ds) :
      LaidOut .plain ls (unlines ds)
  | block {ls ds : List Text} (m n : Nat) (h : List.Forall₂ (LineLaidOut .block) ls ds) :
      LaidOut .block ls (unlines (indent m "/**" :: (ds ++ [indent n " */"])))

section Layout

variable {y : Style} {l d : Text} {ls ds : List Text}

theorem cleanLine_indent (n : Nat) (l : Text) : cleanLine (indent n l) = cleanLine l :=
  cleanLine_append_left (allBlank_replicate n)

theorem isLine_indent {n : Nat} (h : IsLine l) : IsLine (indent n l) :=
  isLine_append.mpr ⟨isLine_replicate n, h⟩

theorem isLine_starLine (h : IsLine l) : IsLine (starLine l) :=
  isLine_append.mpr ⟨(by decide : IsLine [' ', '*', ' ']), h⟩

theorem Style.clean_of_isPlain (h : IsPlain l) : y.clean l = l := by
  cases y with
  | plain => exact cleanLine_of_isPlain h
  | block => exact cleanLine_starLine_of_isPlain h

theorem Style.clean_of_allBlank (h : AllBlank l) : y.clean l = [] := by
  cases y with
  | plain => exact cleanLine_of_allBlank h
  | block => exact cleanLine_starLine_of_allBlank h

/-- **Indentation does not matter** for a cleaned line, on either side of the star. -/
theorem LineLaidOut.cleanLine_eq (h : LineLaidOut y l d) : cleanLine d = y.clean l := by
  cases h with
  | plain n l => exact cleanLine_indent n l
  | star m n l =>
      show _ = cleanLine (starLine l)
      rw [cleanLine_indent, cleanLine_starLine, cleanLine_starLine, indent,
        strip_append_left (allBlank_replicate n)]
  | bareStar m =>
      rw [cleanLine_indent, Style.clean_of_allBlank (by decide)]
      rfl

theorem LineLaidOut.isLine (h : LineLaidOut y l d) (hl : IsLine l) : IsLine d := by
  cases h with
  | plain n l => exact isLine_indent hl
  | star m n l => exact isLine_indent (isLine_starLine (isLine_indent hl))
  | bareStar m => exact isLine_indent (by decide)

theorem map_cleanLine_of_laidOut (h : List.Forall₂ (LineLaidOut y) ls ds) :
    ds.map cleanLine = ls.map y.clean := by
  induction h with
  | nil => rfl
  | cons hd _ ih => rw [List.map_cons, List.map_cons, hd.cleanLine_eq, ih]

theorem isLine_of_laidOut (h : List.Forall₂ (LineLaidOut y) ls ds) (hls : ∀ l ∈ ls, IsLine l) :
    ∀ d ∈ ds, IsLine d := by
  induction h with
  | nil => simp
  | @cons l d ls ds hd _ ih =>
      obtain ⟨hl, hrest⟩ := List.forall_mem_cons.mp hls
      exact List.forall_mem_cons.mpr ⟨hd.isLine hl, ih hrest⟩

end Layout

/-! ## Ways to write tags -/

/-- The second list has the lines of the first one in order, and blank lines. -/
inductive Spaced : List Text → List Text → Prop
  | nil : Spaced [] []
  | line (p : Text) {ps ls : List Text} (rest : Spaced ps ls) : Spaced (p :: ps) (p :: ls)
  | blank {l : Text} {ps ls : List Text} (isLine : IsLine l) (allBlank : AllBlank l)
      (rest : Spaced ps ls) : Spaced ps (l :: ls)

/-- The lines say what the tag says. -/
inductive Tag.WrittenAs (t : Tag) : List Text → Prop
  /-- The expression on the line of the mark. -/
  | onOneLine (h : t.preface = []) : WrittenAs t [heading t.note ++ ' ' :: t.expression]
  /-- The whole preface below the mark. -/
  | below {ls : List Text} (h : Spaced t.preface ls) :
      WrittenAs t (heading t.note :: (ls ++ [t.expression]))
  /-- The first line of the preface beside the mark. -/
  | beside {p : Text} {ps ls : List Text} (hp : t.preface = p :: ps) (h : Spaced ps ls) :
      WrittenAs t ((heading t.note ++ ' ' :: p) :: (ls ++ [t.expression]))

/-- The lines say what the tags say in this order, with prose before, between and behind them.
Prose is every line on which no mark is found in a doc comment of the style. -/
inductive Written (y : Style) : List Tag → List Text → Prop
  | done : Written y [] []
  | prose {l : Text} {ts : List Tag} {ls : List Text} (isLine : IsLine l)
      (unmarked : Mark.find? (y.clean l) = none) (rest : Written y ts ls) : Written y ts (l :: ls)
  | tag {t : Tag} {ts : List Tag} {tls ls : List Text} (writable : t.IsWritable)
      (written : t.WrittenAs tls) (rest : Written y ts ls) : Written y (t :: ts) (tls ++ ls)

section Writing

variable {y : Style} {t : Tag} {ts : List Tag} {ps ls : List Text}

theorem Spaced.isLine (h : Spaced ps ls) (hps : ∀ p ∈ ps, IsPrefaceLine p) :
    ∀ l ∈ ls, IsLine l := by
  induction h with
  | nil => simp
  | line p _ ih =>
      obtain ⟨hp, hrest⟩ := List.forall_mem_cons.mp hps
      exact List.forall_mem_cons.mpr ⟨hp.plain.isLine, ih hrest⟩
  | blank hl _ _ ih => exact List.forall_mem_cons.mpr ⟨hl, ih hps⟩

theorem Tag.WrittenAs.isLine (h : t.WrittenAs ls) (ht : t.IsWritable) : ∀ l ∈ ls, IsLine l := by
  have he : ∀ l ∈ [t.expression], IsLine l := by simpa using ht.expression.plain.isLine
  cases h with
  | onOneLine _ =>
      simpa using (isPlain_heading_append ht.note ht.expression.plain).isLine
  | below hs =>
      have hls := hs.isLine ht.preface
      exact List.forall_mem_cons.mpr
        ⟨isLine_heading ht.note, List.forall_mem_append.mpr ⟨hls, he⟩⟩
  | beside hpre hs =>
      obtain ⟨hp, hps⟩ := List.forall_mem_cons.mp (hpre ▸ ht.preface)
      exact List.forall_mem_cons.mpr ⟨(isPlain_heading_append ht.note hp.plain).isLine,
        List.forall_mem_append.mpr ⟨hs.isLine hps, he⟩⟩

theorem Written.isLine (h : Written y ts ls) : ∀ l ∈ ls, IsLine l := by
  induction h with
  | done => simp
  | prose hl _ _ ih => exact List.forall_mem_cons.mpr ⟨hl, ih⟩
  | tag ht hw _ ih => exact List.forall_mem_append.mpr ⟨hw.isLine ht, ih⟩

end Writing

/-! ## Reading -/

section Reading

variable {y : Style} {t : Tag} {ts : List Tag} {ps ls : List Text}

theorem readTags_none_unmarked {l : Text} (h : Mark.find? l = none) (ls : List Text) :
    readTags none (l :: ls) = readTags none ls := by
  rw [readTags, h]

/-- An open tag that ends unfinished does not show a blank line at its end. -/
theorem OpenTag.unfinished_addLine_empty (o : OpenTag) :
    (o.addLine []).unfinished = o.unfinished := by
  rcases o with ⟨note, preface, lines⟩
  by_cases hlines : lines = []
  · subst hlines
    rfl
  · have hblank : AllBlank ['\n'] := by decide
    show (⟨strip (unlines (lines ++ [[]]))⟩ : MissingExpression) = ⟨strip (unlines lines)⟩
    rw [unlines_append_empty hlines, strip_append_right hblank]

/-- **A blank line at the end does not matter.** It completes no tag, and no error shows it. -/
theorem readTags_append_empty (o : Option OpenTag) (cs : List Text) :
    readTags o (cs ++ [[]]) = readTags o cs := by
  induction cs generalizing o with
  | nil =>
      cases o with
      | none => rfl
      | some o =>
          show Except.error (o.addLine []).unfinished = _
          rw [o.unfinished_addLine_empty]
          rfl
  | cons c cs ih =>
      cases o with
      | none =>
          rw [List.cons_append, readTags, readTags]
          cases Mark.find? c with
          | none => exact ih none
          | some m => simp only [ih]
      | some o =>
          rw [List.cons_append, readTags, readTags]
          simp only [ih]

/-- An open tag takes the lines of preface up to its expression and skips blank lines. -/
theorem readTags_some_spaced (h : Spaced ps ls) (hps : ∀ p ∈ ps, IsPrefaceLine p) {e : Text}
    (he : IsExpression e) (o : OpenTag) :
    ∃ t : Tag, t.content = (o.note, o.preface ++ ps, e)
      ∧ ∀ rest, readTags (some o) (ls.map y.clean ++ e :: rest)
        = (readTags none rest).map (t :: ·) := by
  induction h generalizing o with
  | nil =>
      refine ⟨o.close e, by simp [Tag.content, OpenTag.close], fun rest => ?_⟩
      rw [List.map_nil, List.nil_append, readTags, he.opensTag_eq_false, he.opens]
      rfl
  | @line p ps ls _ ih =>
      obtain ⟨hp, hrest⟩ := List.forall_mem_cons.mp hps
      obtain ⟨t, ht, hread⟩ := ih hrest (o.addLine p)
      have hpre : (o.addLine p).preface = o.preface ++ [p] :=
        if_neg (by simpa using hp.plain.ne_nil)
      rw [hpre, List.append_assoc, List.singleton_append] at ht
      refine ⟨t, ht, fun rest => ?_⟩
      rw [List.map_cons, List.cons_append, Style.clean_of_isPlain hp.plain, readTags, hp.notTag,
        hp.notExpression]
      exact hread rest
  | @blank l ps ls _ hl _ ih =>
      obtain ⟨t, ht, hread⟩ := ih hps (o.addLine [])
      -- the line is a part of the open tag, but not of its preface
      refine ⟨t, ht, fun rest => ?_⟩
      rw [List.map_cons, List.cons_append, Style.clean_of_allBlank hl, readTags]
      exact hread rest

/-- **One tag is read back** from its lines, before whatever follows. -/
theorem readTags_writtenAs (h : t.WrittenAs ls) (ht : t.IsWritable) :
    ∃ found : Tag, found.content = t.content
      ∧ ∀ rest, readTags none (ls.map y.clean ++ rest)
        = (readTags none rest).map (found :: ·) := by
  have hend := Style.clean_of_isPlain (y := y) ht.expression.plain
  have hstrip : ∀ {l : Text}, IsPlain l → strip (' ' :: l) = l := fun hl =>
    (strip_append_left (s := [' ']) (by decide)).trans hl.trimmed
  cases h with
  | onOneLine hpre =>
      have hline := isPlain_heading_append ht.note ht.expression.plain
      have hmark : Mark.find? (heading t.note ++ ' ' :: t.expression)
          = some ⟨t.note, ' ' :: t.expression⟩ := Mark.find?_heading_append ht.note rfl
      refine ⟨⟨t.note, [], t.expression, heading t.note ++ ' ' :: t.expression⟩,
        by simp [Tag.content, hpre], fun rest => ?_⟩
      rw [List.map_singleton, Style.clean_of_isPlain hline, List.singleton_append, readTags, hmark]
      simp only [hstrip ht.expression.plain, ht.expression.opens, if_true]
  | @below ls hs =>
      have hmark : Mark.find? (heading t.note) = some ⟨t.note, []⟩ := by
        have := Mark.find?_heading_append ht.note (u := []) rfl
        rwa [List.append_nil] at this
      obtain ⟨found, hfound, hread⟩ := readTags_some_spaced (y := y) hs ht.preface ht.expression
        (Mark.open ⟨t.note, []⟩ (heading t.note))
      refine ⟨found, hfound, fun rest => ?_⟩
      rw [List.map_cons, List.map_append, List.map_singleton, hend, List.cons_append,
        Style.clean_of_isPlain (isPlain_heading ht.note), readTags, hmark, List.append_assoc,
        List.singleton_append]
      exact hread rest
  | @beside p ps ls hpre hs =>
      obtain ⟨hp, hps⟩ := List.forall_mem_cons.mp (hpre ▸ ht.preface)
      have hline := isPlain_heading_append ht.note hp.plain
      have hmark : Mark.find? (heading t.note ++ ' ' :: p) = some ⟨t.note, ' ' :: p⟩ :=
        Mark.find?_heading_append ht.note rfl
      obtain ⟨found, hfound, hread⟩ := readTags_some_spaced (y := y) hs hps ht.expression
        (Mark.open ⟨t.note, ' ' :: p⟩ (heading t.note ++ ' ' :: p))
      refine ⟨found, ?_, fun rest => ?_⟩
      · have hfirst :
            (Mark.open ⟨t.note, ' ' :: p⟩ (heading t.note ++ ' ' :: p)).preface = [p] := by
          simp [Mark.open, hstrip hp.plain, hp.plain.ne_nil]
        rw [hfound, hfirst, Tag.content, hpre]
        rfl
      · rw [List.map_cons, List.map_append, List.map_singleton, hend, List.cons_append,
          Style.clean_of_isPlain hline, readTags, hmark, List.append_assoc, List.singleton_append]
        simp only [hstrip hp.plain, hp.notExpression]
        exact hread rest

/-- **All tags are read back** from the lines they are written as, before whatever follows. -/
theorem readTags_written (h : Written y ts ls) :
    ∃ found : List Tag, found.map Tag.content = ts.map Tag.content
      ∧ ∀ rest, readTags none (ls.map y.clean ++ rest)
        = (readTags none rest).map (found ++ ·) := by
  induction h with
  | done =>
      refine ⟨[], rfl, fun rest => ?_⟩
      rw [List.map_nil, List.nil_append]
      cases readTags none rest <;> rfl
  | prose _ hm _ ih =>
      obtain ⟨found, hfound, hread⟩ := ih
      refine ⟨found, hfound, fun rest => ?_⟩
      rw [List.map_cons, List.cons_append, readTags_none_unmarked hm, hread]
  | @tag t ts tls ls ht hw _ ih =>
      obtain ⟨first, hfirst, hreadFirst⟩ := readTags_writtenAs (y := y) hw ht
      obtain ⟨found, hfound, hread⟩ := ih
      refine ⟨first :: found, by rw [List.map_cons, List.map_cons, hfirst, hfound],
        fun rest => ?_⟩
      rw [List.map_append, List.append_assoc, hreadFirst, hread]
      cases readTags none rest <;> rfl

/-- The cleaned lines of a text made of lines are read like these lines when cleaned. -/
theorem extract_unlines_eq {ds : List Text} (hds : ∀ d ∈ ds, IsLine d) :
    extract (unlines ds) = readTags none (ds.map cleanLine) := by
  rw [extract, cleanLines]
  rcases lines_unlines hds with hlines | hlines
  · rw [← hlines]
  · -- the last line is empty and no line of the text
    have hempty : cleanLine [] = [] := rfl
    conv_rhs => rw [hlines]
    rw [List.map_append, List.map_singleton, hempty, readTags_append_empty]

theorem extract_unlines {ds : List Text} (hds : ∀ d ∈ ds, IsLine d) {found : List Tag}
    (h : readTags none (ds.map cleanLine) = .ok found) : extract (unlines ds) = .ok found :=
  (extract_unlines_eq hds).trans h

/-- **What is written is read back.** However tags are written and laid out, `extract` finds exactly
these tags in this order, each with its note, its preface and its expression. -/
theorem extract_of_written {doc : Text} (hwritten : Written y ts ls) (hdoc : LaidOut y ls doc) :
    ∃ found : List Tag, extract doc = .ok found
      ∧ found.map Tag.content = ts.map Tag.content := by
  obtain ⟨found, hfound, hread⟩ := readTags_written hwritten
  refine ⟨found, ?_, hfound⟩
  cases hdoc with
  | @plain _ ds h =>
      refine extract_unlines (isLine_of_laidOut h hwritten.isLine) ?_
      have hall := hread []
      rw [List.append_nil] at hall
      rw [map_cleanLine_of_laidOut h, hall]
      simp [readTags, Except.map]
  | @block _ ds m n h =>
      have hlines : ∀ d ∈ indent m "/**" :: (ds ++ [indent n " */"]), IsLine d := by
        refine List.forall_mem_cons.mpr ⟨isLine_indent (by decide), ?_⟩
        refine List.forall_mem_append.mpr ⟨isLine_of_laidOut h hwritten.isLine, ?_⟩
        exact List.forall_mem_singleton.mpr (isLine_indent (by decide))
      have hopening : cleanLine (indent m "/**") = [] := cleanLine_indent m _
      have hclosing : cleanLine (indent n " */") = [] := cleanLine_indent n _
      -- both ends of the block are cleaned away, and an empty line holds no mark
      refine extract_unlines hlines ?_
      rw [List.map_cons, List.map_append, List.map_singleton, hopening, hclosing,
        map_cleanLine_of_laidOut h, readTags_none_unmarked rfl, hread, readTags_none_unmarked rfl]
      simp [readTags, Except.map]

end Reading

/-! ## A comment block -/

/-- A tag with a note and a preface. -/
def slowTag : Tag :=
  { note := some "slow", preface := ["Adds two numbers.", "Takes long."],
    expression := "(2, 3) == 5" }

/-- A tag without them. -/
def zeroTag : Tag := { expression := "(0, 0) == 0" }

/-- Both tags as lines, with prose around them and a blank line inside the first one. -/
def adderLines : List Text :=
  ["The sum.", "@assert-slow Adds two numbers.", "", "Takes long.", "(2, 3) == 5",
   "Mail to a@assert.org.", "@assert (0, 0) == 0"]

/-- The lines as a comment block, some of them further in than others. -/
def adderComment : Text :=
  unlines ["/**", "   * The sum.", "   * @assert-slow Adds two numbers.", "   *",
    "   *     Takes long.", "   *     (2, 3) == 5", "   * Mail to a@assert.org.",
    "   * @assert (0, 0) == 0", "   */"]

theorem adderLines_written : Written .block [slowTag, zeroTag] adderLines := by
  have hslow : slowTag.WrittenAs
      ["@assert-slow Adds two numbers.", "", "Takes long.", "(2, 3) == 5"] :=
    .beside rfl (.blank (by decide) (by decide) (.line _ .nil))
  have hzero : zeroTag.WrittenAs ["@assert (0, 0) == 0"] := .onOneLine rfl
  have hrest : Written .block [zeroTag] ["Mail to a@assert.org.", "@assert (0, 0) == 0"] :=
    .prose (by decide) rfl (.tag (by decide) hzero .done)
  exact .prose (by decide) rfl (.tag (by decide) hslow hrest)

theorem adderComment_laidOut : LaidOut .block adderLines adderComment :=
  .block 0 2 (.cons (.star 2 0 _) (.cons (.star 2 0 _) (.cons (.bareStar 2) (.cons (.star 2 4 _)
    (.cons (.star 2 4 _) (.cons (.star 2 0 _) (.cons (.star 2 0 _) .nil)))))))

theorem extract_adderComment :
    Written .block [slowTag, zeroTag] adderLines ∧ LaidOut .block adderLines adderComment
      ∧ ∃ found : List Tag, extract adderComment = .ok found
        ∧ found.map Tag.content = [slowTag, zeroTag].map Tag.content :=
  ⟨adderLines_written, adderComment_laidOut,
    extract_of_written adderLines_written adderComment_laidOut⟩

end TestSkeleton.Annotation
