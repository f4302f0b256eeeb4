import TestSkeleton.Proofs.Number.Reading
import TestSkeleton.Proofs.Result
import TestSkeleton.Proofs.Text.Split
import TestSkeleton.Yaml.Construction

set_option autoImplicit false

/-! # Whole numbers of documents

Whole numbers may have underscores between their digits, and a sign. Behind a zero they tell their
base, and colons take the parts of numbers in base sixty apart (`IntForm`). A text in one of these
forms is read unless there is no digit behind the mark of its base, or a part in base ten has more
digits than can be read (`readInt_eq_error_iff`).
-/

namespace TestSkeleton.Yaml

open Text

variable {base : Nat} {c d : Char} {s t ds : Text} {f : Fault}

/-! ## Underscores and signs -/

/-- The text without underscores. -/
def unscored (t : Text) : Text := t.filter (· != '_')

/-- Digits of a base, and underscores. -/
def HasDigits (base : Nat) (t : Text) : Prop :=
  ∀ c ∈ t, c = '_' ∨ ∃ n, hexValue? c = some n ∧ n < base

theorem unscored_cons (h : c ≠ '_') (t : Text) : unscored (c :: t) = c :: unscored t :=
  List.filter_cons_of_pos (by simpa using h)

theorem unscored_of_not_mem (h : '_' ∉ t) : unscored t = t :=
  List.filter_eq_self.mpr fun c hc => by
    have hne : c ≠ '_' := fun heq => h (heq ▸ hc)
    simpa using hne

theorem mem_unscored : c ∈ unscored t ↔ c ∈ t ∧ c ≠ '_' := by
  simp [unscored]

theorem HasDigits.unscored (h : HasDigits base t) :
    ∀ c ∈ unscored t, ∃ n, hexValue? c = some n ∧ n < base := by
  intro c hc
  obtain ⟨hmem, hne⟩ := mem_unscored.mp hc
  exact (h c hmem).resolve_left hne

theorem unscored_eq_nil_iff : unscored t = [] ↔ ∀ c ∈ t, c = '_' := by
  simp [unscored, List.filter_eq_nil_iff]

theorem splitOn_unscored (t : Text) : splitOn ':' (unscored t) = (splitOn ':' t).map unscored :=
  splitOn_filter rfl t

theorem count_unscored (t : Text) : (unscored t).count ':' = t.count ':' :=
  List.count_filter rfl

theorem unscored_append (s t : Text) : unscored (s ++ t) = unscored s ++ unscored t :=
  List.filter_append s t

theorem dropSign_cons (hminus : c ≠ '-') (hplus : c ≠ '+') (t : Text) :
    Tag.dropSign (c :: t) = c :: t := by
  unfold Tag.dropSign
  split
  next heq => exact absurd (List.cons.inj heq).1 hminus
  next heq => exact absurd (List.cons.inj heq).1 hplus
  next => rfl

theorem dropSign_cases (t : Text) :
    t = '-' :: Tag.dropSign t ∨ t = '+' :: Tag.dropSign t ∨ t = Tag.dropSign t := by
  unfold Tag.dropSign
  split
  next => exact .inl rfl
  next => exact .inr (.inl rfl)
  next => exact .inr (.inr rfl)

theorem mem_dropSign (h : c ∈ t) : c = '-' ∨ c = '+' ∨ c ∈ Tag.dropSign t := by
  rcases dropSign_cases t with ht | ht | ht
  · rw [ht] at h
    exact (List.mem_cons.mp h).imp_right .inr
  · rw [ht] at h
    exact .inr (List.mem_cons.mp h)
  · exact .inr (.inr (ht ▸ h))

theorem count_dropSign (t : Text) : (Tag.dropSign t).count ':' = t.count ':' := by
  rcases dropSign_cases t with ht | ht | ht
  · conv_rhs => rw [ht]
    exact (List.count_cons_of_ne (by decide)).symm
  · conv_rhs => rw [ht]
    exact (List.count_cons_of_ne (by decide)).symm
  · exact congrArg _ ht.symm

/-- Characters that numbers start with behind their sign. -/
def StartsNumber (c : Char) : Prop := c ≠ '_' ∧ c ≠ '-' ∧ c ≠ '+'

theorem startsNumber_of_isAsciiDigit (h : isAsciiDigit c = true) : StartsNumber c := by
  refine ⟨?_, ?_, ?_⟩ <;>
  · rintro rfl
    cases h

/-- The sign goes before or behind the underscores. -/
theorem signed_snd (hd : StartsNumber d) (h : Tag.dropSign t = d :: ds) :
    (signed t).2 = d :: unscored ds := by
  obtain ⟨hscore, hminus, hplus⟩ := hd
  have hdrop := dropSign_cons hminus hplus (unscored ds)
  rcases dropSign_cases t with ht | ht | ht
  · rw [ht, h]
    show Tag.dropSign (unscored ('-' :: d :: ds)) = _
    rw [unscored_cons (by decide), unscored_cons hscore]
    rfl
  · rw [ht, h]
    show Tag.dropSign (unscored ('+' :: d :: ds)) = _
    rw [unscored_cons (by decide), unscored_cons hscore]
    rfl
  · rw [ht, h]
    show Tag.dropSign (unscored (d :: ds)) = _
    rw [unscored_cons hscore, hdrop]

/-! ## Whole numbers -/

/-- Reads the digits of a base. -/
def readWhole (base : Nat) (u : Text) : Except Fault Int :=
  if base == 10 && Number.maxDigits < countDigits u then .error .tooManyDigits
  else
    match Number.int? base u with
    | some n => .ok n
    | none => .error .notANumber

theorem readWhole_nil (base : Nat) : readWhole base [] = .error .notANumber := by
  have hcount : (base == 10 && decide (Number.maxDigits < countDigits [])) = false := by
    rw [Bool.and_eq_false_iff]
    exact .inr rfl
  rw [readWhole, hcount, if_neg Bool.false_ne_true]
  rfl

theorem exists_readWhole (hne : t ≠ []) (h : ∀ c ∈ t, ∃ n, hexValue? c = some n ∧ n < base)
    (hcount : base = 10 → countDigits t ≤ Number.maxDigits) : ∃ n, readWhole base t = .ok n := by
  obtain ⟨n, hn⟩ := Option.isSome_iff_exists.mp (Number.int?_isSome hne h)
  refine ⟨n, ?_⟩
  rw [readWhole, if_neg, hn]
  rw [Bool.and_eq_true, beq_iff_eq, decide_eq_true_eq]
  exact fun ⟨hbase, hlt⟩ => absurd (hcount hbase) (Nat.not_le.mpr hlt)

theorem readWhole_of_long (h : Number.maxDigits < countDigits t) :
    readWhole 10 t = .error .tooManyDigits := by
  rw [readWhole, if_pos]
  simpa using h

/-- A number below sixty is one or two digits. -/
theorem digits_of_areSixtieths {parts : List Text} (h : Tag.areSixtieths parts = true) :
    parts ≠ [] ∧ ∀ p ∈ parts, p ≠ [] ∧ ∀ c ∈ p, isAsciiDigit c = true := by
  rw [Tag.areSixtieths, Bool.and_eq_true, List.all_eq_true] at h
  refine ⟨by simpa using h.1, fun p hp => ?_⟩
  have hpart := h.2 p hp
  split at hpart
  next d => exact ⟨by simp, by simpa using hpart⟩
  next t d =>
    simp only [Bool.and_eq_true, decide_eq_true_eq] at hpart
    obtain ⟨⟨hzero, hfive⟩, hd⟩ := hpart
    have ht : isAsciiDigit t = true := by
      simp only [isAsciiDigit, Bool.and_eq_true, decide_eq_true_eq]
      exact ⟨hzero, Char.le_trans hfive (by decide)⟩
    exact ⟨by simp, by simp [ht, hd]⟩
  next => cases hpart

/-- A part of a number: digits and underscores, and not only underscores. -/
def IsPart (t : Text) : Prop := (∀ c ∈ t, Tag.isDigitOrScore c = true) ∧ unscored t ≠ []

theorem IsPart.hasDigits (h : IsPart t) : HasDigits 10 t := by
  intro c hc
  rcases Bool.or_eq_true .. |>.mp (h.1 c hc) with hdigit | hscore
  · have := Number.isAsciiDigit_iff.mp hdigit
    exact .inr ⟨_, Number.hexValue?_of_isAsciiDigit hdigit, by omega⟩
  · exact .inl (by simpa using hscore)

theorem isPart_of_isAsciiDigit (h : ∀ c ∈ t, isAsciiDigit c = true) (hne : t ≠ []) : IsPart t := by
  have hscore : '_' ∉ t := fun hmem => by cases h _ hmem
  refine ⟨fun c hc => ?_, by rwa [unscored_of_not_mem hscore]⟩
  rw [Tag.isDigitOrScore, h c hc]
  rfl

/-- A number with colons has parts between them. -/
theorem isPart_parts {first : Text} {parts : List Text} (hd : isAsciiDigit d = true)
    (hfirst : first.all Tag.isDigitOrScore = true)
    (hparts : parts = [] ∨ Tag.areSixtieths parts = true) :
    ∀ p ∈ (d :: first) :: parts, IsPart p := by
  refine List.forall_mem_cons.mpr ⟨⟨?_, ?_⟩, fun p hp => ?_⟩
  · refine List.forall_mem_cons.mpr ⟨?_, List.all_eq_true.mp hfirst⟩
    rw [Tag.isDigitOrScore, hd]
    rfl
  · rw [unscored_cons (startsNumber_of_isAsciiDigit hd).1]
    exact List.cons_ne_nil _ _
  · rcases hparts with rfl | hparts
    · cases hp
    · obtain ⟨hne, hdigits⟩ := (digits_of_areSixtieths hparts).2 p hp
      exact isPart_of_isAsciiDigit hdigits hne

/-- How the digits of a whole number stand behind its sign. -/
inductive IntForm : Text → Prop where
  /-- In base two or sixteen, which the mark behind the zero tells. -/
  | based {mark : Char} {base : Nat} {ds : Text}
    (hmark : mark = 'b' ∧ base = 2 ∨ mark = 'x' ∧ base = 16)
    (hds : HasDigits base ds) : IntForm ('0' :: mark :: ds)
  | octal {ds : Text} (hds : HasDigits 8 ds) : IntForm ('0' :: ds)
  /-- In base ten, or with colons in base sixty. -/
  | decimal {d : Char} {ds : Text} (hd : isAsciiDigit d = true) (hzero : d ≠ '0')
    (hparts : ∀ p ∈ splitOn ':' (d :: ds), IsPart p) : IntForm (d :: ds)

theorem intForm_of_isInt (h : Tag.isInt t = true) : IntForm (Tag.dropSign t) := by
  unfold Tag.isInt at h
  generalize Tag.dropSign t = u at h ⊢
  split at h
  next ds hne =>
    refine .based (.inl ⟨rfl, rfl⟩) fun c hc => ?_
    have hbit := List.all_eq_true.mp h c hc
    simp only [Bool.or_eq_true, beq_iff_eq] at hbit
    rcases hbit with (rfl | rfl) | rfl
    · exact .inr ⟨0, rfl, by decide⟩
    · exact .inr ⟨1, rfl, by decide⟩
    · exact .inl rfl
  next ds hne =>
    refine .based (.inr ⟨rfl, rfl⟩) fun c hc => ?_
    have hhex := List.all_eq_true.mp h c hc
    simp only [Bool.or_eq_true, beq_iff_eq] at hhex
    rcases hhex with hhex | rfl
    · obtain ⟨n, hn⟩ := Option.isSome_iff_exists.mp hhex
      have := Number.toNat_of_hexValue? hn
      exact .inr ⟨n, hn, by omega⟩
    · exact .inl rfl
  next => exact .octal nofun
  next ds _ _ _ =>
    refine .octal fun c hc => ?_
    have hoctal := List.all_eq_true.mp h c hc
    simp only [Bool.or_eq_true, Bool.and_eq_true, decide_eq_true_eq, beq_iff_eq] at hoctal
    rcases hoctal with ⟨hzero, hseven⟩ | rfl
    · have hrange : 48 ≤ c.toNat ∧ c.toNat ≤ 55 := by
        simpa [Char.le_def, UInt32.le_iff_toNat_le] using And.intro hzero hseven
      have hdigit : isAsciiDigit c = true := Number.isAsciiDigit_iff.mpr (by omega)
      exact .inr ⟨_, Number.hexValue?_of_isAsciiDigit hdigit, by omega⟩
    · exact .inl rfl
  next d ds _ _ _ hzero =>
    obtain ⟨hd, hds⟩ := Bool.and_eq_true .. |>.mp h
    have hcolon : d ≠ ':' := by rintro rfl; cases hd
    split at hds
    next first parts hsplit =>
      obtain ⟨hfirst, hparts⟩ := Bool.and_eq_true .. |>.mp hds
      rw [Bool.or_eq_true, List.isEmpty_iff] at hparts
      refine .decimal hd hzero ?_
      rw [splitOn_cons_of_ne hcolon, hsplit]
      exact isPart_parts hd hfirst hparts
    next => cases hds
  next => cases h

/-- A number that tells its base by a mark, and has no digits behind it. -/
def IsDigitless (t : Text) : Prop :=
  ∃ mark ds, Tag.dropSign t = '0' :: mark :: ds ∧ (mark = 'b' ∨ mark = 'x') ∧ ∀ c ∈ ds, c = '_'

/-- A number in base ten or sixty, of which a part has more digits than can be read. -/
def IsTooLong (t : Text) : Prop :=
  ∃ d ds, Tag.dropSign t = d :: ds ∧ d ≠ '0'
    ∧ ∃ p ∈ splitOn ':' (d :: ds), Number.maxDigits < countDigits p

theorem countDigits_unscored (t : Text) : countDigits (unscored t) = countDigits t := by
  unfold countDigits unscored
  rw [List.filter_filter]
  congr 1
  refine List.filter_congr fun c _ => ?_
  by_cases hc : c = '_'
  · rw [hc]
    rfl
  · simp [hc]

/-- Reading fails behind the mark of a base just as reading the digits behind it does. -/
theorem readInt_marked_eq_error_iff {mark : Char}
    (hmark : mark = 'b' ∧ base = 2 ∨ mark = 'x' ∧ base = 16)
    (h : (signed t).2 = '0' :: mark :: ds) :
    readInt t = .error f ↔ readWhole base ds = .error f := by
  have hsigned : signed t = ((signed t).1, '0' :: mark :: ds) := Prod.ext rfl h
  unfold readInt
  rw [hsigned]
  rcases hmark with ⟨rfl, rfl⟩ | ⟨rfl, rfl⟩
  · exact bind_eq_error_iff (x := readWhole 2 ds) fun n => ⟨_, rfl⟩
  · exact bind_eq_error_iff (x := readWhole 16 ds) fun n => ⟨_, rfl⟩

/-- Digits of base eight are no mark of another base. -/
theorem HasDigits.ne_mark {mark : Char} (h : HasDigits 8 (mark :: ds)) :
    ¬ (mark = 'b' ∨ mark = 'x') := by
  rintro (rfl | rfl)
  · rcases h _ List.mem_cons_self with hscore | ⟨n, hn, hlt⟩
    · cases hscore
    · cases hn
      exact absurd hlt (by decide)
  · rcases h _ List.mem_cons_self with hscore | ⟨n, hn, -⟩
    · cases hscore
    · cases hn

theorem readInt_octal_ne_error (hds : HasDigits 8 ds) (h : (signed t).2 = '0' :: unscored ds) :
    readInt t ≠ .error f := by
  have hsigned : signed t = ((signed t).1, '0' :: unscored ds) := Prod.ext rfl h
  have hdigits : ∀ c ∈ '0' :: unscored ds, ∃ n, hexValue? c = some n ∧ n < 8 :=
    List.forall_mem_cons.mpr ⟨⟨0, rfl, by decide⟩, hds.unscored⟩
  obtain ⟨n, hn⟩ := exists_readWhole (List.cons_ne_nil _ _) hdigits (fun hbase => by cases hbase)
  -- so no other base is told
  have hmarkless : ∀ mark ds', unscored ds = mark :: ds' → ¬ (mark = 'b' ∨ mark = 'x') := by
    intro mark ds' hcons
    have hrest : HasDigits 8 (mark :: ds') := hcons ▸ fun c hc => .inr (hds.unscored c hc)
    exact hrest.ne_mark
  have hread : (readWhole 8 ('0' :: unscored ds) >>= fun n =>
      (pure (if (signed t).1 then -n else n) : Except Fault Int)) ≠ .error f := by
    rw [hn]
    exact nofun
  unfold readInt
  rw [hsigned]
  dsimp only
  split
  next heq => cases heq
  next => exact nofun
  next heq => exact absurd (.inl rfl) (hmarkless _ _ (List.cons.inj heq).2)
  next heq => exact absurd (.inr rfl) (hmarkless _ _ (List.cons.inj heq).2)
  next => exact hread
  next hzero => exact absurd rfl (hzero _)

/-- Each part of a number in base ten or sixty is read in base ten. -/
theorem readInt_parts_eq_error_iff (hd : d ≠ '0') (h : (signed t).2 = d :: ds) :
    readInt t = .error f ↔ (splitOn ':' (d :: ds)).mapM (readWhole 10) = .error f := by
  have hsigned : signed t = ((signed t).1, d :: ds) := Prod.ext rfl h
  unfold readInt
  rw [hsigned]
  dsimp only
  split
  next heq => cases heq
  next heq => exact absurd (List.cons.inj heq).1 hd
  next heq => exact absurd (List.cons.inj heq).1 hd
  next heq => exact absurd (List.cons.inj heq).1 hd
  next heq => exact absurd (List.cons.inj heq).1 hd
  next =>
    split
    next =>
      exact bind_eq_error_iff (x := (splitOn ':' (d :: ds)).mapM (readWhole 10)) fun n => ⟨_, rfl⟩
    next hcolon =>
      rw [splitOn_of_not_mem (by simpa using hcolon)]
      exact (bind_eq_error_iff (x := readWhole 10 (d :: ds)) fun n => ⟨_, rfl⟩).trans
        (bind_eq_error_iff fun n => ⟨[n], rfl⟩).symm

theorem readWhole_part_eq_error_iff {p : Text} (h : IsPart p) :
    readWhole 10 (unscored p) = .error f
      ↔ f = .tooManyDigits ∧ Number.maxDigits < countDigits p := by
  rw [← countDigits_unscored p]
  by_cases hlong : Number.maxDigits < countDigits (unscored p)
  · rw [readWhole_of_long hlong, Except.error.injEq, and_iff_left hlong, eq_comm]
  · obtain ⟨n, hn⟩ := exists_readWhole h.2 h.hasDigits.unscored fun _ => Nat.le_of_not_lt hlong
    rw [hn]
    exact iff_of_false nofun fun h => hlong h.2

theorem isDigitless_iff (h : Tag.dropSign t = c :: ds) :
    IsDigitless t ↔ c = '0' ∧ ∃ mark u, ds = mark :: u ∧ (mark = 'b' ∨ mark = 'x')
      ∧ unscored u = [] := by
  unfold IsDigitless
  rw [h]
  constructor
  · rintro ⟨mark, u, heq, hmark, hall⟩
    obtain ⟨rfl, rfl⟩ := List.cons.inj heq
    exact ⟨rfl, mark, u, rfl, hmark, unscored_eq_nil_iff.mpr hall⟩
  · rintro ⟨rfl, mark, u, rfl, hmark, hnil⟩
    exact ⟨mark, u, rfl, hmark, unscored_eq_nil_iff.mp hnil⟩

theorem isTooLong_iff (h : Tag.dropSign t = d :: ds) :
    IsTooLong t ↔ d ≠ '0' ∧ ∃ p ∈ splitOn ':' (d :: ds), Number.maxDigits < countDigits p := by
  unfold IsTooLong
  rw [h]
  constructor
  · rintro ⟨d', ds', heq, hlong⟩
    obtain ⟨rfl, rfl⟩ := List.cons.inj heq
    exact hlong
  · exact fun hlong => ⟨d, ds, rfl, hlong⟩

/-- **A whole number is read** unless it has no digits behind the mark of its base, or in base ten
too many. -/
theorem readInt_eq_error_iff (h : Tag.isInt t = true) :
    readInt t = .error f
      ↔ f = .notANumber ∧ IsDigitless t ∨ f = .tooManyDigits ∧ IsTooLong t := by
  generalize hform : Tag.dropSign t = u
  have hint := hform ▸ intForm_of_isInt h
  cases hint with
  | @based mark base ds hmark hds =>
      have hmark' : mark = 'b' ∨ mark = 'x' := hmark.imp And.left And.left
      have hscore : mark ≠ '_' := by rintro rfl; revert hmark'; decide
      have hbase : base ≠ 10 := by rcases hmark with ⟨-, rfl⟩ | ⟨-, rfl⟩ <;> decide
      have hsnd := signed_snd (startsNumber_of_isAsciiDigit rfl) hform
      rw [unscored_cons hscore] at hsnd
      have hdigitless : IsDigitless t ↔ unscored ds = [] := by
        rw [isDigitless_iff hform]
        exact ⟨fun ⟨_, _, _, heq, _, hnil⟩ => (List.cons.inj heq).2 ▸ hnil,
          fun hnil => ⟨rfl, mark, ds, rfl, hmark', hnil⟩⟩
      rw [readInt_marked_eq_error_iff hmark hsnd, hdigitless,
        or_iff_left fun hlong => ((isTooLong_iff hform).mp hlong.2).1 rfl]
      by_cases hnil : unscored ds = []
      · rw [hnil, readWhole_nil, Except.error.injEq, and_iff_left rfl, eq_comm]
      · obtain ⟨n, hn⟩ := exists_readWhole hnil hds.unscored fun heq => absurd heq hbase
        rw [hn]
        exact iff_of_false nofun fun h => hnil h.2
  | @octal ds hds =>
      have hsnd := signed_snd (startsNumber_of_isAsciiDigit rfl) hform
      refine iff_of_false (readInt_octal_ne_error hds hsnd) ?_
      rw [isDigitless_iff hform, isTooLong_iff hform]
      rintro (⟨-, -, mark, u, rfl, hmark, -⟩ | ⟨-, hzero, -⟩)
      · exact hds.ne_mark hmark
      · exact hzero rfl
  | @decimal d ds hd hzero hparts =>
      have hstart := startsNumber_of_isAsciiDigit hd
      have hpart : ∀ p ∈ splitOn ':' (d :: ds), ∀ e,
          readWhole 10 (unscored p) = .error e → e = .tooManyDigits := fun p hp e he =>
        ((readWhole_part_eq_error_iff (hparts p hp)).mp he).1
      rw [readInt_parts_eq_error_iff hzero (signed_snd hstart hform), ← unscored_cons hstart.1,
        splitOn_unscored, List.mapM_map]
      refine (mapM_eq_error_iff (g := readWhole 10 ∘ unscored) hpart).trans ?_
      rw [isDigitless_iff hform, isTooLong_iff hform, or_iff_right fun h => hzero h.2.1]
      refine and_congr_right fun _ => ?_
      rw [and_iff_right hzero]
      refine exists_congr fun p => and_congr_right fun hp => ?_
      exact (readWhole_part_eq_error_iff (hparts p hp)).trans (and_iff_right rfl)

end TestSkeleton.Yaml
