import TestSkeleton.Annotation.Line
import TestSkeleton.Proofs.Text.Lines
import TestSkeleton.Proofs.Text.Parts
import TestSkeleton.Proofs.Text.Strip

set_option autoImplicit false

/-! # Cleaned lines and their marks

What cleaning makes of a line of plain text, alone or behind the star of a comment block
(`cleanLine_of_isPlain`, `cleanLine_starLine_of_isPlain`), and where a mark is found
(`findFrom?_heading_iff`).
-/

namespace TestSkeleton.Annotation

open Text

/-! ## The steps of cleaning -/

/-- The text without the start of a comment block. -/
def withoutOpening (t : Text) : Text := (dropPrefix? "/**" t).getD t

/-- The text without the end of a comment block. -/
def withoutClosing (t : Text) : Text := (dropSuffix? "*/" t).getD t

theorem cleanLine_eq (l : Text) :
    cleanLine l
      = strip ((withoutClosing (withoutOpening (strip l))).dropWhile (· == '*')) := rfl

theorem withoutOpening_sublist (t : Text) : (withoutOpening t).Sublist t := by
  unfold withoutOpening
  cases h : dropPrefix? "/**" t with
  | none => exact List.Sublist.refl t
  | some u =>
      obtain rfl := dropPrefix?_eq_some_iff.mp h
      exact List.sublist_append_right _ _

theorem withoutClosing_sublist (t : Text) : (withoutClosing t).Sublist t := by
  unfold withoutClosing
  cases h : dropSuffix? "*/" t with
  | none => exact List.Sublist.refl t
  | some u =>
      obtain rfl := dropSuffix?_eq_some_iff.mp h
      exact List.sublist_append_left _ _

/-- Cleaning only takes characters away. -/
theorem cleanLine_sublist (l : Text) : (cleanLine l).Sublist l := by
  rw [cleanLine_eq]
  exact (strip_sublist _).trans ((List.dropWhile_sublist _).trans
    ((withoutClosing_sublist _).trans ((withoutOpening_sublist _).trans (strip_sublist l))))

theorem cleanLine_append_left {s l : Text} (h : AllBlank s) :
    cleanLine (s ++ l) = cleanLine l := by
  rw [cleanLine_eq, cleanLine_eq, strip_append_left h]

theorem cleanLine_of_allBlank {l : Text} (h : AllBlank l) : cleanLine l = [] := by
  rw [cleanLine_eq, strip_eq_nil_iff.mpr h]
  rfl

/-- The end of a comment block is seen without what comes before it, unless that has a part of
it. -/
theorem dropSuffix?_closing_append {s t : Text} (hslash : s.getLast? ≠ some '/')
    (hstar : t = ['/'] → s.getLast? ≠ some '*') :
    dropSuffix? "*/" (s ++ t) = (dropSuffix? "*/" t).map (s ++ ·) := by
  rw [← List.head?_reverse] at hslash hstar
  rw [dropSuffix?, dropSuffix?, List.reverse_append]
  show Option.map _ (dropPrefix? ['/', '*'] _) = Option.map _ (Option.map _ _)
  rcases htail : t.reverse with _ | ⟨d, _ | ⟨e, u⟩⟩
  · cases hrev : s.reverse with
    | nil => rfl
    | cons x xs =>
        have hx : '/' ≠ x := fun hx => hslash (by rw [hrev, hx]; rfl)
        simp [dropPrefix?, hx]
  · by_cases hd : d = '/'
    · subst hd
      have ht : t = ['/'] := by rw [← List.reverse_inj, htail]; rfl
      cases hrev : s.reverse with
      | nil => simp [dropPrefix?]
      | cons x xs =>
          have hx : '*' ≠ x := fun hx => hstar ht (by rw [hrev, hx]; rfl)
          simp [dropPrefix?, hx]
    · simp [dropPrefix?, Ne.symm hd]
  · by_cases hd : d = '/'
    · subst hd
      by_cases he : e = '*'
      · subst he
        simp [dropPrefix?]
      · simp [dropPrefix?, Ne.symm he]
    · simp [dropPrefix?, Ne.symm hd]

theorem withoutClosing_append {s t : Text} (hslash : s.getLast? ≠ some '/')
    (hstar : t = ['/'] → s.getLast? ≠ some '*') :
    withoutClosing (s ++ t) = s ++ withoutClosing t := by
  rw [withoutClosing, withoutClosing, dropSuffix?_closing_append hslash hstar]
  cases dropSuffix? "*/" t <;> rfl

theorem withoutClosing_append_cons {c : Char} (h : isBlank c = true) (s t : Text) :
    withoutClosing (s ++ c :: t) = s ++ c :: withoutClosing t := by
  have hlast : (s ++ [c]).getLast? = some c := List.getLast?_concat
  have hc : c ≠ '/' ∧ c ≠ '*' := by
    constructor <;> (rintro rfl; exact absurd h (by decide))
  have happend := withoutClosing_append (s := s ++ [c]) (t := t)
    (by rw [hlast]; simpa using hc.1) (fun _ => by rw [hlast]; simpa using hc.2)
  simpa using happend

theorem strip_withoutClosing_append_left {s : Text} (h : AllBlank s) (t : Text) :
    strip (withoutClosing (s ++ t)) = strip (withoutClosing t) := by
  induction s with
  | nil => rfl
  | cons c s ih =>
      have hc := h c List.mem_cons_self
      have hs : AllBlank s := fun d hd => h d (List.mem_cons_of_mem c hd)
      have hstep : withoutClosing (c :: s ++ t) = c :: withoutClosing (s ++ t) :=
        withoutClosing_append_cons hc [] (s ++ t)
      have hblank : AllBlank [c] := by simpa [AllBlank] using hc
      calc strip (withoutClosing (c :: s ++ t))
          = strip (c :: withoutClosing (s ++ t)) := by rw [hstep]
        _ = strip (withoutClosing (s ++ t)) := strip_append_left hblank
        _ = strip (withoutClosing t) := ih hs

/-- A line feed takes the cleaned lines apart. At the end of a line that has ended already, it stands
for an empty line. -/
theorem cleanLines_newline_or (s t : Text) :
    cleanLines (s ++ '\n' :: t) = cleanLines s ++ cleanLines t
      ∨ cleanLines (s ++ '\n' :: t) = cleanLines s ++ [] :: cleanLines t := by
  unfold cleanLines
  rcases lines_newline_or s t with h | h
  · exact Or.inl (by rw [h, List.map_append])
  · refine Or.inr ?_
    rw [h, List.map_append]
    rfl

/-- Cleaned lines have no blank space at their ends, and are single lines. -/
theorem trimmed_of_mem_cleanLines {doc l : Text} (h : l ∈ cleanLines doc) :
    strip l = l ∧ IsLine l := by
  obtain ⟨d, hd, rfl⟩ := List.mem_map.mp h
  refine ⟨?_, isLine_of_sublist (cleanLine_sublist d) (isLine_of_mem_lines hd)⟩
  rw [cleanLine_eq, strip_strip]

/-! ## Lines of a comment block -/

/-- A line behind one or more stars and a gap. -/
def behindStars (n : Nat) (gap l : Text) : Text := List.replicate (n + 1) '*' ++ (gap ++ l)

/-- A line behind the star of a comment block. -/
def starLine (l : Text) : Text := ' ' :: '*' :: ' ' :: l

theorem strip_behindStars (n : Nat) (gap l : Text) :
    strip (behindStars n gap l) = stripEnd (behindStars n gap l) := by
  rw [behindStars, List.replicate_succ, List.cons_append, strip_cons_of_not_blank rfl,
    stripEnd_cons_of_not_blank rfl]

theorem stripEnd_stars (n : Nat) :
    stripEnd (List.replicate (n + 1) '*') = List.replicate (n + 1) '*' := by
  rw [List.replicate_succ', stripEnd_concat_of_not_blank rfl]

/-- The stars go, and the gap behind them is no star. -/
theorem dropWhile_stars_append {c : Char} (hc : isBlank c = true) (n : Nat) (t : Text) :
    (List.replicate n '*' ++ c :: t).dropWhile (· == '*') = c :: t := by
  have hstar : (c == '*') = false := by
    rw [beq_eq_false_iff_ne]
    rintro rfl
    exact absurd hc (by decide)
  rw [List.dropWhile_append_of_pos (by simp), List.dropWhile_cons_of_neg (by simp [hstar])]

/-- **Behind stars and a gap**, cleaning looks for neither the start of a comment block nor more
stars. -/
theorem cleanLine_behindStars {pad gap : Text} (hpad : AllBlank pad) (hgap : AllBlank gap)
    (hne : gap ≠ []) (n : Nat) (l : Text) :
    cleanLine (pad ++ behindStars n gap l) = strip (withoutClosing (strip l)) := by
  have hopening :
      withoutOpening (strip (behindStars n gap l)) = stripEnd (behindStars n gap l) := by
    rw [strip_behindStars, behindStars, List.replicate_succ, List.cons_append,
      stripEnd_cons_of_not_blank rfl]
    rfl
  rw [cleanLine_append_left hpad, cleanLine_eq, hopening]
  by_cases hl : AllBlank l
  · -- nothing but the stars is left, and they are no end of a comment block
    have hstars : stripEnd (behindStars n gap l) = List.replicate (n + 1) '*' := by
      rw [behindStars, stripEnd_append_of_allBlank (allBlank_append.mpr ⟨hgap, hl⟩),
        stripEnd_stars]
    have hclosing : withoutClosing (List.replicate (n + 1) '*') = List.replicate (n + 1) '*' := by
      have happend := withoutClosing_append (s := List.replicate (n + 1) '*') (t := [])
        (by rw [List.replicate_succ', List.getLast?_concat]; decide) (fun h => by cases h)
      simpa [withoutClosing, dropSuffix?, dropPrefix?] using happend
    have hdrop : (List.replicate (n + 1) '*').dropWhile (· == '*') = [] := by simp
    rw [hstars, hclosing, hdrop, strip_eq_nil_iff.mpr hl]
    rfl
  · obtain ⟨p, hp, hend⟩ := exists_blank_append_strip l
    obtain ⟨c, gap, rfl⟩ := List.exists_cons_of_ne_nil hne
    have hc : isBlank c = true := hgap c List.mem_cons_self
    have hblank : AllBlank (c :: gap ++ p) := allBlank_append.mpr ⟨hgap, hp⟩
    have htail : stripEnd (behindStars n (c :: gap) l)
        = List.replicate (n + 1) '*' ++ c :: (gap ++ p ++ strip l) := by
      rw [behindStars, ← List.append_assoc, stripEnd_append_of_not_allBlank hl, hend]
      simp
    rw [htail, withoutClosing_append_cons hc, dropWhile_stars_append hc,
      ← strip_withoutClosing_append_left hblank, List.cons_append, List.cons_append]
    exact congrArg strip (withoutClosing_append_cons hc [] _).symm

theorem cleanLine_starLine (l : Text) :
    cleanLine (starLine l) = strip (withoutClosing (strip l)) := by
  have hspace : AllBlank [' '] := by decide
  exact cleanLine_behindStars hspace hspace (List.cons_ne_nil _ _) 0 l

/-! ## Plain lines -/

/-- A line of plain text: without blank space at its ends and without what decorates the lines of a
comment block. -/
structure IsPlain (l : Text) : Prop where
  ne_nil : l ≠ []
  trimmed : strip l = l
  isLine : IsLine l
  noStar : startsWith "*" l = false
  noOpening : startsWith "/**" l = false
  noClosing : endsWith "*/" l = false

instance (l : Text) : Decidable (IsPlain l) :=
  decidable_of_iff (l ≠ [] ∧ strip l = l ∧ IsLine l
      ∧ startsWith "*" l = false ∧ startsWith "/**" l = false ∧ endsWith "*/" l = false)
    ⟨fun ⟨h₁, h₂, h₃, h₄, h₅, h₆⟩ => ⟨h₁, h₂, h₃, h₄, h₅, h₆⟩,
      fun ⟨h₁, h₂, h₃, h₄, h₅, h₆⟩ => ⟨h₁, h₂, h₃, h₄, h₅, h₆⟩⟩

section Plain

variable {l : Text}

theorem withoutClosing_of_isPlain (h : IsPlain l) : withoutClosing l = l := by
  rw [withoutClosing, dropSuffix?_of_endsWith_eq_false h.noClosing]
  rfl

theorem dropWhile_star_of_noStar (h : startsWith "*" l = false) :
    l.dropWhile (· == '*') = l := by
  cases l with
  | nil => rfl
  | cons c t =>
      have hc : (c == '*') = false := by
        rw [beq_eq_false_iff_ne]
        rintro rfl
        cases h
      rw [List.dropWhile_cons_of_neg (by simp [hc])]

/-- **Plain lines are clean already.** -/
theorem cleanLine_of_isPlain (h : IsPlain l) : cleanLine l = l := by
  have hopening : withoutOpening l = l := by
    rw [withoutOpening, dropPrefix?_of_startsWith_eq_false h.noOpening]
    rfl
  rw [cleanLine_eq, h.trimmed, hopening, withoutClosing_of_isPlain h,
    dropWhile_star_of_noStar h.noStar, h.trimmed]

theorem cleanLine_starLine_of_isPlain (h : IsPlain l) : cleanLine (starLine l) = l := by
  rw [cleanLine_starLine, h.trimmed, withoutClosing_of_isPlain h, h.trimmed]

theorem cleanLine_starLine_of_allBlank (h : AllBlank l) : cleanLine (starLine l) = [] := by
  rw [cleanLine_starLine, strip_eq_nil_iff.mpr h]
  rfl

end Plain

/-! ## Headings of tags -/

/-- The mark with a note, as the first line of a tag starts. -/
def heading (note : Option Text) : Text :=
  keyword ++ match note with
    | none => []
    | some n => '-' :: n

/-- What can stand behind the hyphen of a mark. -/
def IsNote (n : Text) : Prop := n ≠ [] ∧ ∀ c ∈ n, isNoteChar c = true

instance (n : Text) : Decidable (IsNote n) :=
  have := List.decidableBAll (fun c => isNoteChar c = true) n
  instDecidableAnd

theorem toNat_of_isNoteChar {c : Char} (h : isNoteChar c = true) :
    97 ≤ c.toNat ∧ c.toNat ≤ 122 ∨ 48 ≤ c.toNat ∧ c.toNat ≤ 57 ∨ c.toNat = 95 ∨ c.toNat = 45 := by
  simp only [isNoteChar, Bool.or_eq_true, Bool.and_eq_true, decide_eq_true_eq, beq_iff_eq,
    Char.le_def, UInt32.le_iff_toNat_le] at h
  rcases h with ((h | h) | rfl) | rfl
  · exact Or.inl h
  · exact Or.inr (Or.inl h)
  · exact Or.inr (Or.inr (Or.inl rfl))
  · exact Or.inr (Or.inr (Or.inr rfl))

theorem isBlank_of_isNoteChar {c : Char} (h : isNoteChar c = true) : isBlank c = false := by
  have := toNat_of_isNoteChar h
  simp only [isBlank, Bool.or_eq_false_iff, Bool.and_eq_false_iff, decide_eq_false_iff_not,
    beq_eq_false_iff_ne]
  omega

theorem isLineBreak_of_isNoteChar {c : Char} (h : isNoteChar c = true) : isLineBreak c = false := by
  have := toNat_of_isNoteChar h
  simp only [isLineBreak, Bool.or_eq_false_iff, Bool.and_eq_false_iff, decide_eq_false_iff_not,
    beq_eq_false_iff_ne]
  omega

theorem isLine_heading {note : Option Text} (h : ∀ n ∈ note, IsNote n) : IsLine (heading note) := by
  have hkeyword : IsLine keyword := by decide
  cases note with
  | none => simpa [heading] using hkeyword
  | some n =>
      refine isLine_append.mpr ⟨hkeyword, isLine_cons.mpr ⟨by decide, fun c hc => ?_⟩⟩
      exact isLineBreak_of_isNoteChar ((h n rfl).2 c hc)

/-- A heading ends in a character of the keyword or of the note. -/
theorem isNoteChar_getLast?_heading {note : Option Text} (h : ∀ n ∈ note, IsNote n) :
    ∃ c, (heading note).getLast? = some c ∧ isNoteChar c = true := by
  cases note with
  | none => exact ⟨'t', rfl, by decide⟩
  | some n =>
      obtain ⟨hne, hchars⟩ := h n rfl
      refine ⟨n.getLast hne, ?_, hchars _ (List.getLast_mem hne)⟩
      rw [heading, List.getLast?_append_of_ne_nil _ (List.cons_ne_nil _ _),
        List.getLast?_cons_of_ne_nil hne, List.getLast?_eq_some_getLast hne]

theorem endsWith_closing_eq_false {t : Text} (h : t.getLast? ≠ some '/') :
    endsWith "*/" t = false := by
  have hnone := dropSuffix?_closing_append (t := []) h (fun h => by cases h)
  rw [List.append_nil] at hnone
  rw [endsWith, hnone]
  rfl

theorem isPlain_heading {note : Option Text} (h : ∀ n ∈ note, IsNote n) :
    IsPlain (heading note) := by
  obtain ⟨c, hlast, hc⟩ := isNoteChar_getLast?_heading h
  refine ⟨List.cons_ne_nil _ _, strip_eq_self_iff.mpr ⟨?_, ?_⟩, isLine_heading h, rfl, rfl, ?_⟩
  · intro d hd
    obtain rfl : '@' = d := Option.some.inj hd
    rfl
  · intro d hd
    rw [hlast] at hd
    obtain rfl : c = d := Option.some.inj hd
    exact isBlank_of_isNoteChar hc
  · refine endsWith_closing_eq_false fun hslash => ?_
    rw [hlast] at hslash
    obtain rfl : c = '/' := Option.some.inj hslash
    exact absurd hc (by decide)

/-- A heading with plain text behind it on the same line is a plain line. -/
theorem isPlain_heading_append {note : Option Text} (h : ∀ n ∈ note, IsNote n) {l : Text}
    (hl : IsPlain l) : IsPlain (heading note ++ ' ' :: l) := by
  have hsplit : heading note ++ ' ' :: l = (heading note ++ [' ']) ++ l := by simp
  have hlast : (heading note ++ [' ']).getLast? = some ' ' := List.getLast?_concat
  refine ⟨List.cons_ne_nil _ _, strip_eq_self_iff.mpr ⟨?_, ?_⟩, ?_, rfl, rfl, ?_⟩
  · intro d hd
    obtain rfl : '@' = d := Option.some.inj hd
    rfl
  · intro d hd
    rw [hsplit, List.getLast?_append_of_ne_nil _ hl.ne_nil] at hd
    exact (strip_eq_self_iff.mp hl.trimmed).2 d hd
  · exact isLine_append.mpr ⟨isLine_heading h, isLine_cons.mpr ⟨by decide, hl.isLine⟩⟩
  · rw [hsplit, endsWith, dropSuffix?_closing_append (by rw [hlast]; decide)
      (fun _ => by rw [hlast]; decide), dropSuffix?_of_endsWith_eq_false hl.noClosing]
    rfl

/-! ## Where marks are found -/

namespace Mark

/-- **A heading is read as a mark** with its note and with what follows it. -/
theorem read?_heading_append {note : Option Text} (h : ∀ n ∈ note, IsNote n) {u : Text}
    (hu : atWordEnd u = true) : read? (heading note ++ u) = some ⟨note, u⟩ := by
  cases note with
  | none =>
      rw [heading, List.append_nil, read?, dropPrefix?_append]
      simp [hu]
  | some n =>
      obtain ⟨hne, hchars⟩ := h n rfl
      have htake : u.takeWhile isNoteChar = [] ∧ u.dropWhile isNoteChar = u := by
        cases u with
        | nil => exact ⟨rfl, rfl⟩
        | cons c u =>
            have hc : isNoteChar c ≠ true := fun hnote => by
              rw [atWordEnd, isBlank_of_isNoteChar hnote] at hu
              cases hu
            exact ⟨List.takeWhile_cons_of_neg hc, List.dropWhile_cons_of_neg hc⟩
      have hempty : n.isEmpty = false := List.isEmpty_eq_false_iff.mpr hne
      have hhyphen : atWordEnd ('-' :: (n ++ u)) = false := rfl
      rw [heading, List.append_assoc, read?, dropPrefix?_append]
      simp [hhyphen, List.takeWhile_append_of_pos hchars, List.dropWhile_append_of_pos hchars,
        htake.1, htake.2, hempty, hu]

/-- What is read as a mark is a heading at the end of a word. -/
theorem heading_of_read? {t : Text} {m : Mark} (h : read? t = some m) :
    t = heading m.note ++ m.rest ∧ (∀ n ∈ m.note, IsNote n) ∧ atWordEnd m.rest = true := by
  unfold read? at h
  split at h
  next => cases h
  next u hu =>
    obtain rfl := dropPrefix?_eq_some_iff.mp hu
    split at h
    next hend =>
      obtain rfl := Option.some.inj h
      exact ⟨by simp [heading], by simp, hend⟩
    next =>
      split at h
      next v _ =>
        dsimp only at h
        split at h
        next hnote =>
          obtain rfl := Option.some.inj h
          obtain ⟨hne, hend⟩ := Bool.and_eq_true_iff.mp hnote
          have hne : v.takeWhile isNoteChar ≠ [] := by simpa using hne
          refine ⟨?_, fun n hn => ?_, hend⟩
          · rw [heading, List.append_assoc, List.cons_append, List.takeWhile_append_dropWhile]
          · obtain rfl := Option.some.inj hn
            exact ⟨hne, fun c hc => List.mem_takeWhile_imp hc⟩
        next => cases h
      next => cases h

/-- **Marks are read from headings** that end a word, and from nothing else. -/
theorem read?_eq_some_iff {t : Text} {m : Mark} :
    read? t = some m
      ↔ t = heading m.note ++ m.rest ∧ (∀ n ∈ m.note, IsNote n) ∧ atWordEnd m.rest = true := by
  refine ⟨heading_of_read?, ?_⟩
  rintro ⟨rfl, hnote, hend⟩
  exact read?_heading_append hnote hend

/-- **A heading is found as a mark** with its note and with what follows it. -/
theorem find?_heading_append {note : Option Text} (h : ∀ n ∈ note, IsNote n) {u : Text}
    (hu : atWordEnd u = true) : find? (heading note ++ u) = some ⟨note, u⟩ := by
  show findFrom? true ('@' :: ("assert".toList ++ _ ++ u)) = _
  rw [findFrom?]
  show (read? (heading note ++ u)).orElse _ = _
  rw [read?_heading_append h hu]
  rfl

/-- **A mark that is found** is a heading behind other text on the line. -/
theorem exists_heading_of_findFrom? {b : Bool} {t : Text} {m : Mark} (h : findFrom? b t = some m) :
    ∃ before, t = before ++ (heading m.note ++ m.rest) ∧ (∀ n ∈ m.note, IsNote n)
      ∧ atWordEnd m.rest = true := by
  fun_induction findFrom? b t with
  | case1 => cases h
  | case2 c t ih =>
      rw [Option.orElse_eq_or, Option.or_eq_some_iff] at h
      rcases h with h | ⟨-, h⟩
      · exact ⟨[], heading_of_read? h⟩
      · obtain ⟨before, rfl, hmark⟩ := ih h
        exact ⟨c :: before, rfl, hmark⟩
  | case3 c t ih =>
      obtain ⟨before, rfl, hmark⟩ := ih h
      exact ⟨c :: before, rfl, hmark⟩

theorem length_le_of_findFrom? {b : Bool} {t : Text} {m : Mark} (h : findFrom? b t = some m) :
    (heading m.note ++ m.rest).length ≤ t.length := by
  obtain ⟨before, rfl, -⟩ := exists_heading_of_findFrom? h
  exact (List.suffix_append before _).length_le

/-- What follows a mark is the end of its line. -/
theorem rest_suffix {b : Bool} {t : Text} {m : Mark} (h : Mark.findFrom? b t = some m) :
    m.rest <:+ t := by
  obtain ⟨before, rfl, -⟩ := exists_heading_of_findFrom? h
  rw [← List.append_assoc]
  exact List.suffix_append _ m.rest

/-- The keyword stands on the line of a mark. -/
theorem keyword_infix {b : Bool} {t : Text} {m : Mark} (h : Mark.findFrom? b t = some m) :
    keyword <:+: t := by
  obtain ⟨before, rfl, -⟩ := exists_heading_of_findFrom? h
  have hheading : keyword <+: heading m.note := List.prefix_append keyword _
  exact hheading.isInfix.trans (List.infix_append' _ _ _)

/-! ### Headings behind other text -/

/-- A word may start behind the text. If the text is empty, the flag tells. -/
def startsWordBehind (b : Bool) (s : Text) : Bool := (s.getLast?.map isBlank).getD b

theorem startsWordBehind_cons (b : Bool) (c : Char) (s : Text) :
    startsWordBehind b (c :: s) = startsWordBehind (isBlank c) s := by
  cases s with
  | nil => rfl
  | cons d s =>
      rw [startsWordBehind, startsWordBehind, List.getLast?_cons_cons,
        List.getLast?_eq_some_getLast (List.cons_ne_nil d s)]
      rfl

/-- The sign of a tag is the first character of a heading and no other. -/
theorem exists_heading_eq_cons {note : Option Text} (h : ∀ n ∈ note, IsNote n) :
    ∃ t, heading note = '@' :: t ∧ '@' ∉ t := by
  refine ⟨"assert".toList ++ _, rfl, fun hmem => ?_⟩
  rcases List.mem_append.mp hmem with hmem | hmem
  · exact absurd hmem (by decide)
  · cases note with
    | none => cases hmem
    | some n =>
        have hn : '@' ∈ n := by simpa using hmem
        exact absurd ((h n rfl).2 '@' hn) (by decide)

/-- The end of a heading is not blank. -/
theorem ne_heading_of_startsWordBehind {note : Option Text} (h : ∀ n ∈ note, IsNote n) {c : Char}
    {s : Text} {b : Bool} (hs : startsWordBehind b (c :: s) = true) : c :: s ≠ heading note := by
  intro heq
  obtain ⟨d, hlast, hd⟩ := isNoteChar_getLast?_heading h
  rw [heq, startsWordBehind, hlast] at hs
  have hd := isBlank_of_isNoteChar hd
  rw [Option.map_some, Option.getD_some, hd] at hs
  cases hs

/-- In front of the sign of another tag, a mark is read just if it ends before the sign. -/
theorem read?_append_at_iff {c : Char} {s t : Text} {b : Bool}
    (hs : startsWordBehind b (c :: s) = true) :
    read? (c :: s ++ '@' :: t) = none ↔ read? (c :: s) = none := by
  simp only [Option.eq_none_iff_forall_ne_some, ne_eq, read?_eq_some_iff, not_and]
  constructor
  · intro hnone m hm hnote hend
    have hrest : m.rest ≠ [] := by
      intro hnil
      rw [hnil, List.append_nil] at hm
      exact ne_heading_of_startsWordBehind hnote hs hm
    refine hnone ⟨m.note, m.rest ++ '@' :: t⟩ ?_ hnote ?_
    · rw [hm, List.append_assoc]
    · obtain ⟨d, u, hu⟩ := List.exists_cons_of_ne_nil hrest
      rw [hu] at hend ⊢
      exact hend
  · intro hnone m hm hnote hend
    obtain ⟨u, hu, hat⟩ := exists_heading_eq_cons hnote
    rcases List.append_eq_append_iff.mp hm with ⟨w, hw, hrest⟩ | ⟨w, hw, hrest⟩
    · cases w with
      | nil =>
          rw [List.append_nil] at hw
          exact ne_heading_of_startsWordBehind hnote hs hw.symm
      | cons d w =>
          -- the sign would be inside of the heading
          obtain ⟨rfl, -⟩ := List.cons.inj hrest
          rw [hu, List.cons_append] at hw
          obtain ⟨-, rfl⟩ := List.cons.inj hw
          exact hat (by simp)
    · refine hnone ⟨m.note, w⟩ hw hnote ?_
      cases w with
      | nil => rfl
      | cons d w =>
          rw [hrest] at hend
          exact hend

/-- **A heading behind other text is the mark of its line** just if a word may start there and no
other mark is in front. -/
theorem findFrom?_heading_iff {note : Option Text} (h : ∀ n ∈ note, IsNote n) {u : Text}
    (hu : atWordEnd u = true) (b : Bool) (s : Text) :
    findFrom? b (s ++ (heading note ++ u)) = some ⟨note, u⟩
      ↔ findFrom? b s = none ∧ startsWordBehind b s = true := by
  obtain ⟨t, ht, -⟩ := exists_heading_eq_cons h
  induction s generalizing b with
  | nil =>
      have hread := read?_heading_append h hu
      rw [List.nil_append]
      cases b with
      | true =>
          have hfound : findFrom? true (heading note ++ u) = some ⟨note, u⟩ := by
            rw [ht, List.cons_append] at hread ⊢
            rw [findFrom?, hread]
            rfl
          simp [hfound, findFrom?, startsWordBehind]
      | false =>
          -- behind its first character there is no room for the heading
          have hshort : findFrom? false (heading note ++ u) ≠ some ⟨note, u⟩ := by
            intro hfound
            rw [ht, List.cons_append, findFrom?] at hfound
            have hlength := length_le_of_findFrom? hfound
            simp only [ht, List.cons_append, List.length_cons] at hlength
            omega
          simp [hshort, startsWordBehind]
  | cons c s ih =>
      have hrest := ih (isBlank c)
      rw [← startsWordBehind_cons b] at hrest
      rw [List.cons_append]
      cases b with
      | false =>
          rw [findFrom?, findFrom?]
          exact hrest
      | true =>
          -- a heading that starts further in front is longer
          have hlonger : read? (c :: (s ++ (heading note ++ u))) ≠ some ⟨note, u⟩ := by
            intro hread
            have hlength := congrArg List.length (heading_of_read? hread).1
            simp only [List.length_cons, List.length_append] at hlength
            omega
          rw [findFrom?, findFrom?, Option.orElse_eq_or, Option.orElse_eq_or, Option.or_eq_none_iff,
            Option.or_eq_some_iff, or_iff_right hlonger, hrest, ← and_assoc]
          refine and_congr_left fun hword => and_congr_left' ?_
          rw [ht]
          exact read?_append_at_iff hword

end Mark

end TestSkeleton.Annotation
