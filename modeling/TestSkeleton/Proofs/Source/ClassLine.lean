import TestSkeleton.Proofs.Text.Newline
import TestSkeleton.Proofs.Text.Parts
import TestSkeleton.Proofs.Text.Strip
import TestSkeleton.Source.Item

set_option autoImplicit false

/-! # The first class in the text of a module

The name of the first class of a module is looked for in its text, line by line, and a line counts
as a class statement if it starts like one, whatever it is part of. Statements are written in lines
that start in some other way (`IsOtherLine`), except for the class statements themselves and for the
texts that stand by themselves: these can have line breaks, and behind each of them anything. So the
name that is found is the first one in a line of such a text in front of the first class statement,
and else the name of that class (`firstClassName?_toText`).
-/

namespace TestSkeleton

open Text

/-! ## The first class statement -/

/-- A name that can be read behind the word `class`: an ASCII letter or an underscore, and then
letters, digits and underscores. -/
def Text.isPlainName : Text → Bool
  | [] => false
  | c :: t => (isAsciiLetter c || c == '_') && t.all isWordChar

/-- A class statement, what is carried out before it and what is left behind it. -/
structure ClassPlace where
  before : List Item := []
  name : Text
  bases : List Text
  doc : Option Text
  body : List Item
  after : List Item := []

/-- The class statement itself. -/
def ClassPlace.statement (p : ClassPlace) : Item := .cls p.name p.bases p.doc p.body

/-- All statements that are carried out, in their order. -/
def ClassPlace.items (p : ClassPlace) : List Item := p.before ++ p.statement :: p.after

namespace Item

mutual

/-- The first class statement in a statement. -/
def firstClass? : Item → Option ClassPlace
  | .cls name bases doc body => some { name, bases, doc, body }
  | .block body => firstClassIn? body
  | _ => none

/-- The first class statement among statements. -/
def firstClassIn? : List Item → Option ClassPlace
  | [] => none
  | i :: is =>
    match firstClass? i with
    | some p => some { p with after := p.after ++ is }
    | none => (firstClassIn? is).map fun p => { p with before := i :: p.before }

end

mutual

/-- The texts that stand by themselves in a statement, outside of classes. -/
def texts : Item → List Text
  | .text t => [t]
  | .block body => allTexts body
  | _ => []

/-- The texts that stand by themselves among statements. -/
def allTexts : List Item → List Text
  | [] => []
  | i :: is => texts i ++ allTexts is

end

/-- The text has no blank space in it. -/
def isSolid (t : Text) : Bool := t.all (!isBlank ·)

mutual

/-- The statement is written as it is meant: names have no blank space in them, and comments and
values have no line breaks. -/
def isOrderly : Item → Bool
  | .cls name bases _ body => isSolid name && bases.all isSolid && areOrderly body
  | .function name _ decorators => isSolid name && decorators.all isSolid
  | .lambda name => isSolid name
  | .value name v => isSolid name && decide v.literal.Unbroken
  | .rename name target => isSolid name && isSolid target
  | .comment t => decide t.Unbroken
  | .text _ => true
  | .block body => areOrderly body
  | .raise exception _ => isSolid exception
  | .load module => isSolid module

/-- All statements are written as they are meant. -/
def areOrderly : List Item → Bool
  | [] => true
  | i :: is => isOrderly i && areOrderly is

end

end Item

/-- The first name that a line of one of the texts shows as that of a class. The first line of a
text does not count: it stands behind quotation marks. -/
def quotedClassName? (ts : List Text) : Option Text :=
  ts.findSome? fun t => classNameBehindLine? (normalizeNewlines t)

theorem quotedClassName?_append (ts us : List Text) :
    quotedClassName? (ts ++ us) = (quotedClassName? ts).or (quotedClassName? us) :=
  List.findSome?_append

/-! ## Names at the start of a text -/

section Start

variable {c : Char} {s t : Text}

theorem classNameAt?_append_of_allBlank (h : AllBlank s) :
    classNameAt? (s ++ t) = classNameAt? t := by
  rw [classNameAt?, stripStart_append_of_allBlank h, classNameAt?]

theorem classNameAt?_cons_of_ne (hblank : isBlank c = false) (hc : c ≠ 'c') :
    classNameAt? (c :: t) = none := by
  have hdrop : dropPrefix? "class" (c :: t) = none := by
    show (if ('c' == c) = true then dropPrefix? "lass" t else none) = none
    rw [if_neg (by simpa using hc.symm)]
  rw [classNameAt?, stripStart_cons_of_not_blank hblank, hdrop]
  rfl

/-- The plain name that a text starts with. -/
def plainNameAt? : Text → Option Text
  | [] => none
  | c :: t => if isAsciiLetter c || c == '_' then some (c :: t.takeWhile isWordChar) else none

/-- A name is read behind the word `class` and blank space. -/
theorem classNameAt?_eq (t : Text) :
    classNameAt? t = (dropPrefix? "class" (stripStart t)).bind fun rest =>
      if rest.head?.any isBlank then plainNameAt? (stripStart rest) else none := by
  rw [classNameAt?]
  refine Option.bind_congr fun rest _ => ?_
  cases rest with
  | nil => rfl
  | cons c u =>
      show (if isBlank c = true then _ else none) = if isBlank c = true then _ else none
      cases stripStart (c :: u) <;> rfl

theorem toNat_of_startsPlainName (h : (isAsciiLetter c || c == '_') = true) :
    (65 ≤ c.toNat ∧ c.toNat ≤ 90) ∨ (97 ≤ c.toNat ∧ c.toNat ≤ 122) ∨ c.toNat = 95 := by
  simp only [isAsciiLetter, isAsciiLower, isAsciiUpper, Bool.or_eq_true, Bool.and_eq_true,
    decide_eq_true_eq, beq_iff_eq, Char.le_def, UInt32.le_iff_toNat_le] at h
  rcases h with (h | h) | rfl
  · exact Or.inr (Or.inl h)
  · exact Or.inl h
  · exact Or.inr (Or.inr rfl)

theorem isBlank_of_startsPlainName (h : (isAsciiLetter c || c == '_') = true) :
    isBlank c = false := by
  have hcode := toNat_of_startsPlainName h
  simp [isBlank]
  omega

theorem isWordChar_of_startsPlainName (h : (isAsciiLetter c || c == '_') = true) :
    isWordChar c = true := by
  have hcode : c.toNat < 0x80 := by
    have := toNat_of_startsPlainName h
    omega
  rw [isWordChar, isAlphanumeric, if_pos hcode]
  rcases Bool.or_eq_true_iff.mp h with hletter | hunderscore
  · simp [hletter]
  · simp [hunderscore]

theorem isWordChar_of_isPlainName {n : Text} (h : n.isPlainName = true) :
    ∀ c ∈ n, isWordChar c = true := by
  cases n with
  | nil => cases h
  | cons d t =>
      obtain ⟨hd, ht⟩ := Bool.and_eq_true_iff.mp h
      exact List.forall_mem_cons.mpr
        ⟨isWordChar_of_startsPlainName hd, fun c hc => List.all_eq_true.mp ht c hc⟩

/-- What is read is a plain name. -/
theorem isPlainName_of_classNameAt? {n : Text} (h : classNameAt? t = some n) :
    n.isPlainName = true := by
  rw [classNameAt?_eq] at h
  obtain ⟨rest, -, h⟩ := Option.bind_eq_some_iff.mp h
  split at h
  · unfold plainNameAt? at h
    split at h
    · cases h
    · split at h
      next hd =>
        cases h
        rw [isPlainName, hd, Bool.true_and, List.all_eq_true]
        exact fun c hc => List.mem_takeWhile_imp hc
      next => cases h
  · cases h

theorem isPlainName_of_classNameBehindLine? {n : Text} (h : classNameBehindLine? t = some n) :
    n.isPlainName = true := by
  induction t with
  | nil => cases h
  | cons c t ih =>
      rw [classNameBehindLine?] at h
      split at h
      next =>
        rw [Option.orElse_eq_or, Option.or_eq_some_iff] at h
        rcases h with h | ⟨-, h⟩
        · exact isPlainName_of_classNameAt? h
        · exact ih h
      next => exact ih h

theorem isPlainName_of_quotedClassName? {n : Text} {ts : List Text}
    (h : quotedClassName? ts = some n) : n.isPlainName = true := by
  obtain ⟨t, -, ht⟩ := List.exists_of_findSome?_eq_some h
  exact isPlainName_of_classNameBehindLine? ht

/-- A class statement shows the name of its class. -/
theorem classNameAt?_class {n : Text} (hn : n.isPlainName = true) (hc : isWordChar c = false)
    (t : Text) : classNameAt? ("class ".toList ++ n ++ c :: t) = some n := by
  cases n with
  | nil => cases hn
  | cons d u =>
      obtain ⟨hd, hu⟩ := Bool.and_eq_true_iff.mp hn
      have hstrip : stripStart (' ' :: (d :: u ++ c :: t)) = d :: u ++ c :: t := by
        rw [stripStart, List.dropWhile_cons_of_pos (by decide)]
        exact stripStart_cons_of_not_blank (isBlank_of_startsPlainName hd)
      have hname : plainNameAt? (d :: u ++ c :: t) = some (d :: u) := by
        rw [List.cons_append, plainNameAt?, if_pos hd,
          List.takeWhile_append_of_pos fun e he => List.all_eq_true.mp hu e he,
          List.takeWhile_cons_of_neg (by simp [hc]), List.append_nil]
      rw [classNameAt?_eq]
      show (if isBlank ' ' = true then plainNameAt? (stripStart (' ' :: (d :: u ++ c :: t)))
        else none) = _
      rw [hstrip, hname]
      rfl

/-! ## Behind a quotation mark -/

theorem plainNameAt?_append_quote (s t : Text) :
    plainNameAt? (s ++ '\'' :: t) = plainNameAt? s := by
  cases s with
  | nil => rfl
  | cons c s =>
      have hword : (s ++ '\'' :: t).takeWhile isWordChar = s.takeWhile isWordChar := by
        rw [List.takeWhile_append, List.takeWhile_cons_of_neg (by decide)]
        split
        next hall => rw [List.append_nil, (List.takeWhile_prefix _).eq_of_length hall]
        next => rfl
      rw [List.cons_append, plainNameAt?, plainNameAt?, hword]

/-- A name ends at a quotation mark, and none starts there. -/
theorem classNameAt?_append_quote (s t : Text) :
    classNameAt? (s ++ '\'' :: t) = classNameAt? s := by
  rw [classNameAt?_eq, classNameAt?_eq, stripStart_append_cons (by decide),
    dropPrefix?_append_cons (by decide), Option.bind_map]
  refine Option.bind_congr fun rest _ => ?_
  have hhead : (rest ++ '\'' :: t).head?.any isBlank = rest.head?.any isBlank := by
    cases rest <;> rfl
  rw [Function.comp_apply, hhead, stripStart_append_cons (by decide), plainNameAt?_append_quote]

theorem classNameBehindLine?_append_quote (s t : Text) : classNameBehindLine? (s ++ '\'' :: t)
    = (classNameBehindLine? s).or (classNameBehindLine? t) := by
  induction s with
  | nil => rfl
  | cons c s ih =>
      rw [List.cons_append, classNameBehindLine?, classNameBehindLine?]
      split
      next => simp only [classNameAt?_append_quote, ih, Option.orElse_eq_or, Option.or_assoc]
      next => exact ih

/-! ## Lines -/

theorem classNameBehindLine?_append (hs : Unbroken s) (t : Text) :
    classNameBehindLine? (s ++ t) = classNameBehindLine? t := by
  induction s with
  | nil => rfl
  | cons c s ih =>
      obtain ⟨hc, hs⟩ := unbroken_cons.mp hs
      rw [List.cons_append, classNameBehindLine?, if_neg (by simpa using hc.1), ih hs]

/-- The line does not start like a class statement. -/
def IsOtherLine (l : Text) : Prop := Unbroken l ∧ ∀ t, classNameAt? (l ++ '\n' :: t) = none

theorem isOtherLine_cons (hblank : isBlank c = false) (hc : c ≠ 'c') (ht : Unbroken t) :
    IsOtherLine (c :: t) := by
  refine ⟨unbroken_cons.mpr ⟨⟨?_, ?_⟩, ht⟩, fun u => classNameAt?_cons_of_ne hblank hc⟩
  · rintro rfl
    exact absurd hblank (by decide)
  · rintro rfl
    exact absurd hblank (by decide)

theorem isOtherLine_indented {l : Text} (h : IsOtherLine l) (n : Nat) :
    IsOtherLine (List.replicate n ' ' ++ l) := by
  refine ⟨unbroken_append.mpr ⟨unbroken_replicate n, h.1⟩, fun t => ?_⟩
  rw [List.append_assoc, classNameAt?_append_of_allBlank (allBlank_replicate n)]
  exact h.2 t

/-- No name makes a binding of it look like a class statement, not even `class`. -/
theorem classNameAt?_binding {n : Text} (hn : ∀ c ∈ n, isBlank c = false) (t : Text) :
    classNameAt? (n ++ " = ".toList ++ t) = none := by
  cases n with
  | nil =>
      refine (classNameAt?_append_of_allBlank (s := [' ']) (by decide)).trans ?_
      exact classNameAt?_cons_of_ne (by decide) (by decide)
  | cons c n =>
      have hstrip : stripStart (c :: n ++ " = ".toList ++ t) = c :: n ++ " = ".toList ++ t :=
        stripStart_cons_of_not_blank (hn c List.mem_cons_self)
      rw [classNameAt?_eq, hstrip, Option.bind_eq_none_iff]
      intro rest hrest
      rw [dropPrefix?_eq_some_iff, List.append_assoc, List.append_eq_append_iff] at hrest
      -- the word ends inside the name, at its end or behind it
      rcases hrest with ⟨beyond, hword, hrest⟩ | ⟨left, hname, hrest⟩
      · cases beyond with
        | nil =>
            rw [List.nil_append] at hrest
            rw [← hrest]
            rfl
        | cons d beyond =>
            obtain rfl : ' ' = d := (List.cons.inj hrest).1
            have hblank : ' ' ∈ "class".toList := hword ▸ by simp
            exact absurd hblank (by decide)
      · cases left with
        | nil =>
            rw [hrest]
            rfl
        | cons d left =>
            have hd : isBlank d = false := hn d (hname ▸ by simp)
            rw [hrest]
            exact if_neg (by simp [hd])

theorem isOtherLine_binding {n : Text} (h : Item.isSolid n = true) (ht : Unbroken t) :
    IsOtherLine (n ++ " = ".toList ++ t) := by
  have hn : ∀ c ∈ n, isBlank c = false := by simpa [Item.isSolid] using h
  refine ⟨unbroken_append.mpr ⟨unbroken_append.mpr ⟨unbroken_of_not_blank hn, by decide⟩, ht⟩,
    fun u => ?_⟩
  rw [List.append_assoc]
  exact classNameAt?_binding hn _

end Start

/-! ## Statements without a class -/

/-- Reading the first class passes over this part of a text. -/
def IsPassedOver (s : Text) : Prop :=
  ∀ t, firstClassName? (normalizeNewlines (s ++ t)) = firstClassName? (normalizeNewlines t)

theorem isPassedOver_nil : IsPassedOver [] := fun _ => rfl

theorem IsPassedOver.append {s t : Text} (hs : IsPassedOver s) (ht : IsPassedOver t) :
    IsPassedOver (s ++ t) := fun u => by rw [List.append_assoc, hs, ht]

theorem isPassedOver_flatMap {α : Type} {f : α → Text} {l : List α}
    (h : ∀ a ∈ l, IsPassedOver (f a)) : IsPassedOver (l.flatMap f) := by
  induction l with
  | nil => exact isPassedOver_nil
  | cons a l ih =>
      rw [List.flatMap_cons]
      exact (h a List.mem_cons_self).append (ih fun a ha => h a (List.mem_cons_of_mem _ ha))

/-- Any line that does not start like a class statement is passed over, however deep it is. -/
theorem IsOtherLine.isPassedOver {l : Text} (h : IsOtherLine l) (depth : Nat) :
    IsPassedOver (Item.line depth l) := by
  intro t
  obtain ⟨hline, hnone⟩ := isOtherLine_indented h (4 * depth)
  have hnormal : normalizeNewlines (Item.line depth l ++ t)
      = List.replicate (4 * depth) ' ' ++ l ++ '\n' :: normalizeNewlines t := by
    rw [Item.line, List.append_assoc _ ['\n'], normalizeNewlines_append_of_unbroken hline]
    exact congrArg _ (normalizeNewlines_cons (by decide))
  rw [hnormal, firstClassName?, hnone, classNameBehindLine?_append hline]
  rfl

namespace Item

theorem isPassedOver_docLine (depth : Nat) (doc : Option Text) :
    IsPassedOver (docLine depth doc) := by
  cases doc with
  | none => exact isPassedOver_nil
  | some d =>
      obtain ⟨mark, u, hquoted, hmark⟩ := quoted_eq_cons d
      have hline : IsOtherLine d.quoted := by
        have hunbroken := unbroken_quoted d
        rw [hquoted] at hunbroken ⊢
        rcases hmark with rfl | rfl <;>
          exact isOtherLine_cons (by decide) (by decide) (unbroken_cons.mp hunbroken).2
      exact hline.isPassedOver depth

theorem unbroken_of_isSolid {t : Text} (h : isSolid t = true) : Unbroken t :=
  unbroken_of_not_blank (by simpa [isSolid] using h)

theorem unbroken_qualifyDecorator {d : Text} (h : isSolid d = true) :
    Unbroken (qualifyDecorator d) := by
  unfold qualifyDecorator
  split
  · exact unbroken_append.mpr ⟨by decide, unbroken_of_isSolid h⟩
  · exact unbroken_of_isSolid h

/-- A text that stands by itself shows the names that are behind its line breaks. -/
theorem firstClassName?_text (depth : Nat) (t u : Text) :
    firstClassName? (normalizeNewlines (toText depth (.text t) ++ u))
      = (classNameBehindLine? (normalizeNewlines t)).or
          (firstClassName? (normalizeNewlines u)) := by
  have hstart : Unbroken (List.replicate (4 * depth) ' ' ++ "'''".toList) :=
    unbroken_append.mpr ⟨unbroken_replicate _, by decide⟩
  have hnormal : normalizeNewlines (toText depth (.text t) ++ u)
      = List.replicate (4 * depth) ' ' ++ "'''".toList
          ++ (normalizeNewlines t ++ '\'' :: ("''".toList ++ '\n' :: normalizeNewlines u)) := by
    have htext : toText depth (.text t) ++ u = List.replicate (4 * depth) ' ' ++ "'''".toList
        ++ (t ++ '\'' :: ("''\n".toList ++ u)) := by
      simp [toText, line]
    rw [htext, normalizeNewlines_append_of_unbroken hstart,
      normalizeNewlines_append_cons (by decide)]
    rfl
  have hnone : classNameAt? (List.replicate (4 * depth) ' ' ++ "'''".toList
      ++ (normalizeNewlines t ++ '\'' :: ("''".toList ++ '\n' :: normalizeNewlines u))) = none := by
    rw [List.append_assoc, classNameAt?_append_of_allBlank (allBlank_replicate _)]
    exact classNameAt?_cons_of_ne (by decide) (by decide)
  rw [hnormal, firstClassName?, hnone, classNameBehindLine?_append hstart,
    classNameBehindLine?_append_quote, classNameBehindLine?_append (by decide)]
  rfl

theorem isPassedOver_function {name : Text} {doc : Option Text} {decorators : List Text}
    (h : isOrderly (.function name doc decorators) = true) (depth : Nat) :
    IsPassedOver (toText depth (.function name doc decorators)) := by
  obtain ⟨hname, hdecorators⟩ := Bool.and_eq_true_iff.mp h
  have hlines : IsPassedOver
      (decorators.flatMap fun d => line depth ('@' :: qualifyDecorator d)) := by
    refine isPassedOver_flatMap fun d hd => IsOtherLine.isPassedOver ?_ depth
    exact isOtherLine_cons (by decide) (by decide)
      (unbroken_qualifyDecorator (List.all_eq_true.mp hdecorators d hd))
  have hdef : IsOtherLine ("def ".toList ++ name ++ "(*args):".toList) := by
    have hstart : Unbroken ("ef ".toList ++ name) :=
      unbroken_append.mpr ⟨by decide, unbroken_of_isSolid hname⟩
    exact isOtherLine_cons (by decide) (by decide) (unbroken_append.mpr ⟨hstart, by decide⟩)
  have hpass : IsOtherLine "pass".toList := isOtherLine_cons (by decide) (by decide) (by decide)
  exact ((hlines.append (hdef.isPassedOver depth)).append
    (isPassedOver_docLine (depth + 1) doc)).append (hpass.isPassedOver (depth + 1))

mutual

/-- **What a statement without a class shows**: the names in the texts that stand by themselves. -/
theorem firstClassName?_toText_of_none : ∀ {i : Item} (depth : Nat) (u : Text),
    firstClass? i = none → isOrderly i = true →
      firstClassName? (normalizeNewlines (toText depth i ++ u))
        = (quotedClassName? (texts i)).or (firstClassName? (normalizeNewlines u))
  | .cls .., _, _, hnone, _ => by cases hnone
  | .function .., depth, u, _, h => isPassedOver_function h depth u
  | .lambda name, depth, u, _, h => by
      have hline : IsOtherLine (name ++ " = ".toList ++ "lambda *args: None".toList) :=
        isOtherLine_binding h (by decide)
      rw [List.append_assoc] at hline
      exact hline.isPassedOver depth u
  | .value name v, depth, u, _, h => by
      obtain ⟨hname, hv⟩ := Bool.and_eq_true_iff.mp h
      exact (isOtherLine_binding hname (of_decide_eq_true hv)).isPassedOver depth u
  | .rename name target, depth, u, _, h => by
      obtain ⟨hname, htarget⟩ := Bool.and_eq_true_iff.mp h
      exact (isOtherLine_binding hname (unbroken_of_isSolid htarget)).isPassedOver depth u
  | .comment t, depth, u, _, h => by
      have ht : Unbroken (' ' :: t) := unbroken_cons.mpr ⟨by decide, of_decide_eq_true h⟩
      exact (isOtherLine_cons (by decide) (by decide) ht).isPassedOver depth u
  | .text t, depth, u, _, _ => by
      rw [firstClassName?_text]
      simp [quotedClassName?, texts]
  | .block body, depth, u, hnone, h => by
      have hif : IsOtherLine "if True:".toList :=
        isOtherLine_cons (by decide) (by decide) (by decide)
      rw [toText, List.append_assoc, hif.isPassedOver depth]
      exact firstClassName?_allToText_of_none (depth + 1) u hnone h
  | .raise exception message, depth, u, _, h => by
      have hstart : Unbroken ("aise ".toList ++ exception) :=
        unbroken_append.mpr ⟨by decide, unbroken_of_isSolid h⟩
      have hargument : Unbroken (inParentheses [message.quoted]) := by
        rw [inParentheses, joinWith_singleton]
        exact unbroken_append.mpr
          ⟨unbroken_cons.mpr ⟨by decide, unbroken_quoted message⟩, by decide⟩
      exact (isOtherLine_cons (by decide) (by decide)
        (unbroken_append.mpr ⟨hstart, hargument⟩)).isPassedOver depth u
  | .load module, depth, u, _, h => by
      have hmodule : Unbroken ("mport ".toList ++ module) :=
        unbroken_append.mpr ⟨by decide, unbroken_of_isSolid h⟩
      exact (isOtherLine_cons (by decide) (by decide) hmodule).isPassedOver depth u

theorem firstClassName?_allToText_of_none : ∀ {is : List Item} (depth : Nat) (u : Text),
    firstClassIn? is = none → areOrderly is = true →
      firstClassName? (normalizeNewlines (allToText depth is ++ u))
        = (quotedClassName? (allTexts is)).or (firstClassName? (normalizeNewlines u))
  | [], _, _, _, _ => rfl
  | i :: is, depth, u, hnone, h => by
      obtain ⟨hi, his⟩ := Bool.and_eq_true_iff.mp h
      rw [firstClassIn?] at hnone
      split at hnone
      next => cases hnone
      next hfirst =>
        rw [allToText, List.append_assoc, firstClassName?_toText_of_none depth _ hfirst hi,
          firstClassName?_allToText_of_none depth u (Option.map_eq_none_iff.mp hnone) his, allTexts,
          quotedClassName?_append, Option.or_assoc]

end

/-! ## Statements with a class -/

theorem unbroken_of_isPlainName {name : Text} (h : name.isPlainName = true) : Unbroken name := by
  intro c hc
  constructor <;> (rintro rfl; exact absurd (isWordChar_of_isPlainName h _ hc) (by decide))

/-- Behind its name, the line of a class goes on with a mark. -/
theorem exists_classHead (name : Text) (bases : List Text) : ∃ c t,
    classHead name bases = "class ".toList ++ name ++ c :: t ∧ (c = '(' ∨ c = ':') := by
  unfold classHead
  split
  · exact ⟨':', [], by rw [List.append_nil], Or.inr rfl⟩
  · exact ⟨'(', _, by rw [List.append_assoc _ _ [':']]; rfl, Or.inl rfl⟩

/-- The line of a class statement shows its name. -/
theorem firstClassName?_classHead {name : Text} (hname : name.isPlainName = true)
    (bases : List Text) (depth : Nat) (u : Text) :
    firstClassName? (normalizeNewlines (line depth (classHead name bases) ++ u)) = some name := by
  obtain ⟨c, t, hhead, hc⟩ := exists_classHead name bases
  have hmark : isWordChar c = false ∧ c ≠ '\r' := by
    rcases hc with rfl | rfl <;> decide
  have hstart : Unbroken (List.replicate (4 * depth) ' ' ++ ("class ".toList ++ name)) :=
    unbroken_append.mpr ⟨unbroken_replicate _,
      unbroken_append.mpr ⟨by decide, unbroken_of_isPlainName hname⟩⟩
  have hnormal : normalizeNewlines (line depth (classHead name bases) ++ u)
      = List.replicate (4 * depth) ' '
          ++ ("class ".toList ++ name ++ c :: normalizeNewlines (t ++ '\n' :: u)) := by
    have htext : line depth (classHead name bases) ++ u
        = List.replicate (4 * depth) ' ' ++ ("class ".toList ++ name)
            ++ c :: (t ++ '\n' :: u) := by
      simp [line, hhead]
    rw [htext, normalizeNewlines_append_of_unbroken hstart, normalizeNewlines_cons hmark.2,
      List.append_assoc]
  rw [hnormal, firstClassName?, classNameAt?_append_of_allBlank (allBlank_replicate _),
    classNameAt?_class hname hmark.1]
  rfl

mutual

/-- **What a statement with a class shows**: the names in the texts that stand by themselves in
front of the class, and then its own name. -/
theorem firstClassName?_toText_of_some : ∀ {i : Item} {p : ClassPlace} (depth : Nat) (u : Text),
    firstClass? i = some p → isOrderly i = true → p.name.isPlainName = true →
      firstClassName? (normalizeNewlines (toText depth i ++ u))
        = (quotedClassName? (allTexts p.before)).or (some p.name)
  | .cls name bases doc body, p, depth, u, hsome, h, hname => by
      cases hsome
      simp only [toText, List.append_assoc]
      exact firstClassName?_classHead hname bases depth _
  | .block body, p, depth, u, hsome, h, hname => by
      have hif : IsOtherLine "if True:".toList :=
        isOtherLine_cons (by decide) (by decide) (by decide)
      rw [toText, List.append_assoc, hif.isPassedOver depth]
      exact firstClassName?_allToText_of_some (depth + 1) u hsome h hname

theorem firstClassName?_allToText_of_some :
    ∀ {is : List Item} {p : ClassPlace} (depth : Nat) (u : Text),
      firstClassIn? is = some p → areOrderly is = true → p.name.isPlainName = true →
        firstClassName? (normalizeNewlines (allToText depth is ++ u))
          = (quotedClassName? (allTexts p.before)).or (some p.name)
  | i :: is, p, depth, u, hsome, h, hname => by
      obtain ⟨hi, his⟩ := Bool.and_eq_true_iff.mp h
      rw [firstClassIn?] at hsome
      rw [allToText, List.append_assoc]
      split at hsome
      next hfirst =>
        cases hsome
        have hclass :=
          firstClassName?_toText_of_some depth (allToText depth is ++ u) hfirst hi hname
        exact hclass
      next hfirst =>
        obtain ⟨p', hp', rfl⟩ := Option.map_eq_some_iff.mp hsome
        rw [firstClassName?_toText_of_none depth _ hfirst hi,
          firstClassName?_allToText_of_some depth u hp' his hname, allTexts,
          quotedClassName?_append, Option.or_assoc]

end


end Item

/-- **The name of the first class** in the text of a module is the first one in a line of a text
that stands by itself in front of the first class statement, or else the name of that class. -/
theorem SourceModule.firstClassName?_toText {m : SourceModule} {p : ClassPlace}
    (horderly : Item.areOrderly m.items = true) (hp : Item.firstClassIn? m.items = some p)
    (hname : p.name.isPlainName = true) : firstClassName? (normalizeNewlines m.toText)
      = some ((quotedClassName? (Item.allTexts p.before)).getD p.name) := by
  have himport : IsOtherLine "import abc".toList :=
    isOtherLine_cons (by decide) (by decide) (by decide)
  have htext := Item.firstClassName?_allToText_of_some 0 [] hp horderly hname
  rw [List.append_nil] at htext
  rw [toText, List.append_assoc, Item.isPassedOver_docLine, himport.isPassedOver, htext]
  cases quotedClassName? (Item.allTexts p.before) <;> rfl

end TestSkeleton
