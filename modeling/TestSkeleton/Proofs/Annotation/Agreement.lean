import TestSkeleton.Proofs.Annotation.RoundTrip
import TestSkeleton.Proofs.Text.Indent

set_option autoImplicit false

/-! # Doc comments that say the same

The same doc comment comes in several forms: with the indentation of the code around it or without,
with or without empty lines, and with line breaks of different kinds. What it says are its cleaned
lines that are not empty (`saidLines`). Removing the indentation keeps these lines
(`saidLines_dedent`), and nothing else matters for what its tags say (`readTags_agrees`), so that the
tags agree whatever form the doc comment comes in (`extract_agrees`).
-/

namespace TestSkeleton.Annotation

open Text

/-! ## What is said -/

/-- The cleaned lines of a doc comment that are not empty. -/
def saidLines (doc : Text) : List Text := (cleanLines doc).filter (!·.isEmpty)

section SaidLines

variable {s t : Text}

/-- A line feed takes apart what is said in front of it and behind it. -/
theorem saidLines_newline (s t : Text) :
    saidLines (s ++ '\n' :: t) = saidLines s ++ saidLines t := by
  unfold saidLines
  rcases cleanLines_newline_or s t with h | h
  · rw [h, List.filter_append]
  · -- one more line, but an empty one
    rw [h, List.filter_append]
    rfl

/-- A blank character in front says nothing. -/
theorem saidLines_cons_of_blank {c : Char} (hc : isBlank c = true) (t : Text) :
    saidLines (c :: t) = saidLines t := by
  have hblank : AllBlank [c] := by simpa [AllBlank] using hc
  unfold saidLines cleanLines
  by_cases hbreak : isLineBreak c = true
  · by_cases hpair : ∃ u, c = '\r' ∧ t = '\n' :: u
    · -- with the line feed behind it, the carriage return ends one line and not two
      obtain ⟨u, rfl, rfl⟩ := hpair
      rw [lines, lines_newline_cons]
    · rw [lines_cons_of_break hbreak fun u hr hu => hpair ⟨u, hr, hu⟩]
      rfl
  · rw [lines_cons_of_not_break (by simpa using hbreak)]
    cases lines t with
    | nil =>
        rw [List.map_singleton, cleanLine_of_allBlank hblank]
        rfl
    | cons l ls =>
        have hclean : cleanLine (c :: l) = cleanLine l :=
          cleanLine_append_left (s := [c]) hblank
        rw [List.map_cons, List.map_cons, hclean]

/-- **Blank space in front says nothing.** -/
theorem saidLines_append_of_allBlank (h : AllBlank s) : saidLines (s ++ t) = saidLines t := by
  induction s with
  | nil => rfl
  | cons c s ih =>
      obtain ⟨hc, hs⟩ := List.forall_mem_cons.mp h
      rw [List.cons_append, saidLines_cons_of_blank hc, ih hs]

theorem saidLines_of_allBlank (h : AllBlank t) : saidLines t = [] := by
  rw [← List.append_nil t, saidLines_append_of_allBlank h]
  rfl

theorem saidLines_stripStart (t : Text) : saidLines (stripStart t) = saidLines t := by
  obtain ⟨p, hp, ht⟩ := exists_blank_append_stripStart t
  conv_rhs => rw [ht, saidLines_append_of_allBlank hp]

/-- What lines say is what each of them says. -/
theorem saidLines_unlines (ls : List Text) : saidLines (unlines ls) = ls.flatMap saidLines := by
  induction ls with
  | nil => rfl
  | cons l ls ih =>
      cases ls with
      | nil => rw [unlines_singleton, List.flatMap_singleton]
      | cons l' ls =>
          rw [unlines_cons_cons, saidLines_newline, ih]
          rfl

/-- Empty lines at the ends say nothing. -/
theorem flatMap_saidLines_trimEmpty (ls : List Text) :
    (trimEmpty ls).flatMap saidLines = ls.flatMap saidLines := by
  have hsilent : ∀ ms : List Text, (∀ m ∈ ms, m.isEmpty = true) → ms.flatMap saidLines = [] := by
    intro ms hms
    refine List.flatMap_eq_nil_iff.mpr fun m hm => ?_
    rw [List.isEmpty_iff.mp (hms m hm)]
    rfl
  have hfront := hsilent _ fun m hm => List.mem_takeWhile_imp (l := ls) hm
  have hback := hsilent _ fun m hm =>
    List.mem_rtakeWhile_imp (l := ls.dropWhile List.isEmpty) hm
  calc (trimEmpty ls).flatMap saidLines
      = ((ls.dropWhile List.isEmpty).rdropWhile List.isEmpty).flatMap saidLines := rfl
    _ = (ls.dropWhile List.isEmpty).flatMap saidLines := by
        conv_rhs => rw [← List.rdropWhile_append_rtakeWhile (p := List.isEmpty)
          (l := ls.dropWhile List.isEmpty), List.flatMap_append, hback, List.append_nil]
    _ = ls.flatMap saidLines := by
        conv_rhs => rw [← List.takeWhile_append_dropWhile (p := List.isEmpty) (l := ls),
          List.flatMap_append, hfront, List.nil_append]

/-- A line says the same without the blank space that it shares with other lines. -/
theorem saidLines_drop_common {ls : List Text} {l : Text} (hl : l ∈ ls) :
    saidLines (l.drop ((commonIndentation? ls).getD 0)) = saidLines l := by
  cases hcommon : commonIndentation? ls with
  | none => rfl
  | some n =>
      by_cases hblank : AllBlank l
      · have hdrop : AllBlank (l.drop n) := fun c hc => hblank c (List.mem_of_mem_drop hc)
        rw [Option.getD_some, saidLines_of_allBlank hdrop, saidLines_of_allBlank hblank]
      · have htake := allBlank_take_of_le_indentation (commonIndentation?_le hcommon hl hblank)
        conv_rhs => rw [← List.take_append_drop n l, saidLines_append_of_allBlank htake]
        rfl

/-- **Removing the indentation of a doc comment keeps what it says.** -/
theorem saidLines_dedent (doc : Text) : saidLines (dedent doc) = saidLines (expandTabs doc) := by
  conv_rhs => rw [← unlines_splitOn (expandTabs doc), saidLines_unlines]
  unfold dedent
  cases splitOn '\n' (expandTabs doc) with
  | nil => rfl
  | cons first rest =>
      have hrest : (rest.map (·.drop ((commonIndentation? rest).getD 0))).flatMap saidLines
          = rest.flatMap saidLines := by
        rw [List.flatMap_map]
        exact List.flatMap_congr fun l hl => saidLines_drop_common hl
      rw [saidLines_unlines, flatMap_saidLines_trimEmpty, List.flatMap_cons, List.flatMap_cons,
        saidLines_stripStart, hrest]

end SaidLines

/-! ## Reading what is said -/

/-- Two readings agree: both fail, or both find tags that say the same one by one. -/
inductive Agrees :
    Except MissingExpression (List Tag) → Except MissingExpression (List Tag) → Prop
  | fail (e e' : MissingExpression) : Agrees (.error e) (.error e')
  | find {ts us : List Tag} (h : ts.map Tag.content = us.map Tag.content) :
      Agrees (.ok ts) (.ok us)

namespace Agrees

variable {x y z : Except MissingExpression (List Tag)}

theorem symm (h : Agrees x y) : Agrees y x := by
  cases h with
  | fail e e' => exact .fail e' e
  | find h => exact .find h.symm

theorem trans (h : Agrees x y) (h' : Agrees y z) : Agrees x z := by
  cases h with
  | fail e _ => cases h' with | fail _ e' => exact .fail e e'
  | find h => cases h' with | find h' => exact .find (h.trans h')

theorem cons (h : Agrees x y) {t u : Tag} (htag : t.content = u.content) :
    Agrees (x.map (t :: ·)) (y.map (u :: ·)) := by
  cases h with
  | fail e e' => exact .fail e e'
  | find h => exact .find (by rw [List.map_cons, List.map_cons, htag, h])

end Agrees

/-- What an open tag says so far. -/
def OpenTag.said (o : OpenTag) : Option Text × List Text := (o.note, o.preface)

section Reading

variable {o o' : OpenTag}

theorem OpenTag.said_addLine (h : o.said = o'.said) (l : Text) :
    (o.addLine l).said = (o'.addLine l).said := by
  obtain ⟨hnote, hpreface⟩ := Prod.mk.inj h
  simp only [said, addLine, hnote, hpreface]

theorem OpenTag.content_close (h : o.said = o'.said) (l : Text) :
    (o.close l).content = (o'.close l).content := by
  obtain ⟨hnote, hpreface⟩ := Prod.mk.inj h
  simp only [Tag.content, close, hnote, hpreface]

end Reading

/-- **Empty lines do not matter** for what the tags say. They only show in the raw text of a tag,
which is why the open tags need to agree in what they say and in nothing else. -/
theorem readTags_agrees {o o' : Option OpenTag} (h : o.map OpenTag.said = o'.map OpenTag.said)
    (ls : List Text) : Agrees (readTags o ls) (readTags o' (ls.filter (!·.isEmpty))) := by
  induction ls generalizing o o' with
  | nil =>
      cases o <;> cases o'
      case none.none => exact .find rfl
      case some.some o o' => exact .fail o.unfinished o'.unfinished
      all_goals cases h
  | cons l ls ih =>
      by_cases hl : l = []
      · subst hl
        rw [List.filter_cons_of_neg (by simp)]
        cases o with
        | none => exact ih h
        | some o => exact ih (o := some (o.addLine [])) h
      · rw [List.filter_cons_of_pos (by simpa using hl)]
        cases o <;> cases o'
        case none.none =>
          rw [readTags, readTags]
          cases Mark.find? l with
          | none => exact ih rfl
          | some m =>
              by_cases hopens : opensExpression (strip m.rest) = true
              · simp only [hopens, if_true]
                exact (ih rfl).cons rfl
              · simp only [hopens]
                exact ih rfl
        case some.some o o' =>
          have hsaid : o.said = o'.said := Option.some.inj h
          rw [readTags, readTags]
          by_cases htag : opensTag l = true
          · simp only [htag, if_true]
            exact .fail _ _
          · by_cases hopens : opensExpression l = true
            · simp only [htag, hopens, if_true]
              exact (ih rfl).cons (OpenTag.content_close hsaid l)
            · simp only [htag, hopens]
              exact ih (congrArg some (OpenTag.said_addLine hsaid l))
        all_goals cases h

theorem extract_agrees_of_saidLines {s t : Text} (h : saidLines s = saidLines t) :
    Agrees (extract s) (extract t) := by
  have hs : Agrees (extract s) (readTags none (saidLines s)) := readTags_agrees rfl _
  have ht : Agrees (extract t) (readTags none (saidLines t)) := readTags_agrees rfl _
  rw [← h] at ht
  exact hs.trans ht.symm

/-- **The form of a doc comment does not matter.** Whether its indentation is removed or only its
tabs are expanded, either no tags can be read from it in both forms, or the same number of tags with
the same notes, prefaces and expressions. The same holds for any two texts whose cleaned lines are
the same but for empty ones. -/
theorem extract_agrees :
    (∀ doc : Text, Agrees (extract (dedent doc)) (extract (expandTabs doc))) ∧
    ∀ s t : Text, (cleanLines s).filter (!·.isEmpty) = (cleanLines t).filter (!·.isEmpty) →
      Agrees (extract s) (extract t) :=
  ⟨fun doc => extract_agrees_of_saidLines (saidLines_dedent doc),
    fun _ _ h => extract_agrees_of_saidLines h⟩

/-- A doc comment with an indentation of its own, with empty lines and with line breaks of different
kinds. -/
def spreadComment : Text :=
  "The sum.\n\n\t@assert-slow Adds two numbers.\r\n\t\n\t  Takes long.\u2028\t  (2, 3) == 5\n
    @assert (0, 0) == 0\n"

/-- The same as a comment block without empty lines. -/
def denseComment : Text :=
  unlines ["/** The sum.", " * @assert-slow Adds two numbers.", " * Takes long.",
    " * (2, 3) == 5", " * @assert (0, 0) == 0 */"]

theorem spreadComment_agrees :
    (cleanLines spreadComment).filter (!·.isEmpty) = (cleanLines denseComment).filter (!·.isEmpty)
      ∧ (extract denseComment).toOption.map (·.map Tag.content)
        = some ([slowTag, zeroTag].map Tag.content)
      ∧ Agrees (extract spreadComment) (extract denseComment)
      ∧ Agrees (extract (dedent spreadComment)) (extract (expandTabs spreadComment)) := by
  have hlines : (cleanLines spreadComment).filter (!·.isEmpty)
      = (cleanLines denseComment).filter (!·.isEmpty) := by decide +kernel
  exact ⟨hlines, by decide, extract_agrees.2 _ _ hlines, extract_agrees.1 _⟩

end TestSkeleton.Annotation
