import Mathlib.Data.List.Basic
import TestSkeleton.Number.Reading
import TestSkeleton.Proofs.Text.Strip

set_option autoImplicit false

/-! # Numbers that can be read

Digits of a base are a whole number in it (`int?_isSome`), and digits with a point and perhaps an
exponent are a decimal (`float?_isSome`). Nothing but digits is needed for this, so that who writes
a number in one of these forms can rely on its value.
-/

namespace TestSkeleton.Number

open Text

variable {base n k : Nat} {c : Char} {t ds : Text}

/-! ## Digits -/

theorem isAsciiDigit_iff : isAsciiDigit c = true ↔ 48 ≤ c.toNat ∧ c.toNat ≤ 57 := by
  simp [isAsciiDigit, Char.le_def, UInt32.le_iff_toNat_le]

/-- The digits of bases up to sixteen are digits, small letters and capital letters of ASCII. -/
theorem toNat_of_hexValue? (h : hexValue? c = some n) :
    48 ≤ c.toNat ∧ c.toNat ≤ 57 ∧ n = c.toNat - 48
      ∨ 97 ≤ c.toNat ∧ c.toNat ≤ 102 ∧ n = c.toNat - 87
      ∨ 65 ≤ c.toNat ∧ c.toNat ≤ 70 ∧ n = c.toNat - 55 := by
  unfold hexValue? at h
  split at h
  next hdigit =>
    have := isAsciiDigit_iff.mp hdigit
    exact .inl ⟨this.1, this.2, (Option.some.inj h).symm⟩
  next =>
    split at h
    next hsmall =>
      have hrange : 97 ≤ c.toNat ∧ c.toNat ≤ 102 := by
        simpa [Char.le_def, UInt32.le_iff_toNat_le] using hsmall
      exact .inr (.inl ⟨hrange.1, hrange.2, (Option.some.inj h).symm⟩)
    next =>
      split at h
      next hcapital =>
        have hrange : 65 ≤ c.toNat ∧ c.toNat ≤ 70 := by
          simpa [Char.le_def, UInt32.le_iff_toNat_le] using hcapital
        exact .inr (.inr ⟨hrange.1, hrange.2, (Option.some.inj h).symm⟩)
      next => cases h

theorem digitValue?_of_isAsciiDigit (h : isAsciiDigit c = true) :
    digitValue? c = some (c.toNat - 48) := by
  have := isAsciiDigit_iff.mp h
  rw [digitValue?, if_pos (by omega), if_pos h]

theorem hexValue?_of_isAsciiDigit (h : isAsciiDigit c = true) :
    hexValue? c = some (c.toNat - 48) := by
  rw [hexValue?, if_pos h]

theorem digit?_of_hexValue? (h : hexValue? c = some n) : digit? c = some n := by
  have hrange := toNat_of_hexValue? h
  unfold digit? digitValue?
  rw [if_pos (by omega)]
  split
  next hdigit =>
    rw [hexValue?, if_pos hdigit] at h
    exact h
  next => exact h

theorem isBlank_of_hexValue? (h : hexValue? c = some n) : isBlank c = false := by
  have hrange := toNat_of_hexValue? h
  rw [isBlank, Bool.eq_false_iff]
  simp only [ne_eq, Bool.or_eq_true, Bool.and_eq_true, decide_eq_true_eq, beq_iff_eq]
  omega

theorem isBlank_of_isAsciiDigit (h : isAsciiDigit c = true) : isBlank c = false :=
  isBlank_of_hexValue? (hexValue?_of_isAsciiDigit h)

/-! ## Signs and blank space -/

theorem strip_of_not_blank (h : ∀ c ∈ t, isBlank c = false) : strip t = t := by
  have hstart : stripStart t = t := by
    cases t with
    | nil => rfl
    | cons c t => exact stripStart_cons_of_not_blank (h c List.mem_cons_self)
  rw [strip, hstart, stripEnd_eq_rdropWhile, List.rdropWhile_eq_self_iff]
  intro hne
  rw [h _ (List.getLast_mem hne)]
  exact Bool.false_ne_true

theorem sign_cons (hminus : c ≠ '-') (hplus : c ≠ '+') (t : Text) :
    sign (c :: t) = (false, c :: t) := by
  unfold sign
  split
  next heq => exact absurd (List.cons.inj heq).1 hminus
  next heq => exact absurd (List.cons.inj heq).1 hplus
  next => rfl

/-! ## Whole numbers -/

theorem digits?_isSome (h : ∀ c ∈ t, ∃ d, hexValue? c = some d ∧ d < base) (n : Nat) :
    (digits? base n t).isSome = true := by
  induction t generalizing n with
  | nil => rfl
  | cons c t ih =>
      obtain ⟨⟨d, hd, hlt⟩, ht⟩ := List.forall_mem_cons.mp h
      rw [digits?, digit?_of_hexValue? hd]
      dsimp only
      rw [if_pos hlt]
      exact ih ht _

/-- A digit of a base is not taken for the mark of the base. -/
theorem baseMarks_contains (h : hexValue? c = some n) (hn : n < base) :
    (baseMarks base).contains c = false := by
  unfold baseMarks
  split
  next =>
    have hb : c ≠ 'b' := by rintro rfl; cases h; exact absurd hn (by decide)
    have hB : c ≠ 'B' := by rintro rfl; cases h; exact absurd hn (by decide)
    simp [hb, hB]
  next =>
    have ho : c ≠ 'o' := by rintro rfl; cases h
    have hO : c ≠ 'O' := by rintro rfl; cases h
    simp [ho, hO]
  next =>
    have hx : c ≠ 'x' := by rintro rfl; cases h
    have hX : c ≠ 'X' := by rintro rfl; cases h
    simp [hx, hX]
  next => rfl

/-- **Digits of a base** are a whole number. -/
theorem int?_isSome (hne : t ≠ []) (h : ∀ c ∈ t, ∃ d, hexValue? c = some d ∧ d < base) :
    (int? base t).isSome = true := by
  have hblank : ∀ c ∈ t, isBlank c = false := fun c hc =>
    let ⟨_, hd, _⟩ := h c hc
    isBlank_of_hexValue? hd
  obtain ⟨c, u, rfl⟩ := List.exists_cons_of_ne_nil hne
  obtain ⟨⟨d, hd, hlt⟩, hu⟩ := List.forall_mem_cons.mp h
  have hsign : sign (c :: u) = (false, c :: u) :=
    sign_cons (by rintro rfl; cases hd) (by rintro rfl; cases hd) u
  have hsome : ∃ n, digits? base 0 (c :: u) = some n :=
    Option.isSome_iff_exists.mp (digits?_isSome h 0)
  obtain ⟨n, hn⟩ := hsome
  unfold int?
  rw [strip_of_not_blank hblank, hsign]
  dsimp only
  split
  next c' rest heq =>
    -- behind a zero there is no mark of the base
    obtain ⟨rfl, rfl⟩ := List.cons.inj heq
    obtain ⟨d', hd', hlt'⟩ := hu c' List.mem_cons_self
    rw [baseMarks_contains hd' hlt', if_neg Bool.false_ne_true, hn]
    rfl
  next =>
    rw [hn]
    rfl

/-! ## Decimals -/

theorem leadingDigits_append (hds : ∀ c ∈ ds, isAsciiDigit c = true)
    (ht : ∀ c, t.head? = some c → digitValue? c = none) (n k : Nat) :
    ∃ n', leadingDigits n k (ds ++ t) = (n', k + ds.length, t) := by
  induction ds generalizing n k with
  | nil =>
      refine ⟨n, ?_⟩
      cases t with
      | nil => rfl
      | cons c t =>
          rw [List.nil_append, leadingDigits, ht c rfl]
          rfl
  | cons c ds ih =>
      obtain ⟨hc, hds⟩ := List.forall_mem_cons.mp hds
      rw [List.cons_append, leadingDigits, digitValue?_of_isAsciiDigit hc, List.length_cons,
        Nat.add_comm ds.length 1, ← Nat.add_assoc]
      exact ih hds (n * 10 + (c.toNat - 48)) (k + 1)

/-- A text that may stand behind the digits of a decimal: nothing, or an exponent with its sign. -/
inductive IsExponent : Text → Prop where
  | empty : IsExponent []
  | signed {m s : Char} {ds : Text} (hmark : m = 'e' ∨ m = 'E') (hsign : s = '-' ∨ s = '+')
    (hne : ds ≠ []) (hds : ∀ c ∈ ds, isAsciiDigit c = true) : IsExponent (m :: s :: ds)

theorem IsExponent.exponent?_isSome (h : IsExponent t) : (exponent? t).isSome = true := by
  cases h with
  | empty => rfl
  | @signed m s ds hmark hsign hne hds =>
      obtain ⟨n, hn⟩ := leadingDigits_append (t := []) hds nofun 0 0
      obtain ⟨k, hk⟩ : ∃ k, ds.length = k + 1 :=
        Nat.exists_eq_succ_of_ne_zero (List.length_pos_iff.mpr hne).ne'
      rw [List.append_nil, Nat.zero_add, hk] at hn
      have hmark' : (m == 'e' || m == 'E') = true := by
        rcases hmark with rfl | rfl <;> rfl
      rcases hsign with rfl | rfl <;>
      · rw [exponent?, if_pos hmark']
        simp only [sign, hn, Option.isSome_some]

/-- The characters of an exponent. -/
theorem IsExponent.mem (h : IsExponent t) :
    ∀ c ∈ t, isAsciiDigit c = true ∨ c ∈ ['e', 'E', '-', '+'] := by
  cases h with
  | empty => exact nofun
  | @signed m s ds hmark hsign hne hds =>
      refine List.forall_mem_cons.mpr ⟨.inr ?_, List.forall_mem_cons.mpr ⟨.inr ?_, ?_⟩⟩
      · rcases hmark with rfl | rfl <;> decide
      · rcases hsign with rfl | rfl <;> decide
      · exact fun c hc => .inl (hds c hc)

theorem IsExponent.not_mem (h : IsExponent t) (hdigit : isAsciiDigit c = false)
    (hsign : c ∉ ['e', 'E', '-', '+']) : c ∉ t := fun hmem =>
  (h.mem c hmem).elim (by rw [hdigit]; exact Bool.false_ne_true) hsign

theorem IsExponent.isBlank (h : IsExponent t) : ∀ c ∈ t, isBlank c = false := by
  intro c hc
  rcases h.mem c hc with hdigit | hsign
  · exact isBlank_of_isAsciiDigit hdigit
  · simp only [List.mem_cons, List.not_mem_nil, or_false] at hsign
    rcases hsign with rfl | rfl | rfl | rfl <;> rfl

theorem IsExponent.digitValue?_head (h : IsExponent t) :
    ∀ c, t.head? = some c → digitValue? c = none := by
  cases h with
  | empty => exact nofun
  | signed hmark hsign hne hds =>
      rintro c ⟨⟩
      rcases hmark with rfl | rfl <;> rfl

/-- **Digits with a point** before, behind or among them, and perhaps an exponent, are a decimal. -/
theorem float?_isSome {whole fraction e : Text} (hwhole : ∀ c ∈ whole, isAsciiDigit c = true)
    (hfraction : ∀ c ∈ fraction, isAsciiDigit c = true) (hne : whole ≠ [] ∨ fraction ≠ [])
    (he : IsExponent e) : (float? (whole ++ '.' :: (fraction ++ e))).isSome = true := by
  have hblank : ∀ c ∈ whole ++ '.' :: (fraction ++ e), Text.isBlank c = false := by
    intro c hc
    simp only [List.mem_append, List.mem_cons] at hc
    rcases hc with hc | rfl | hc | hc
    · exact isBlank_of_isAsciiDigit (hwhole c hc)
    · rfl
    · exact isBlank_of_isAsciiDigit (hfraction c hc)
    · exact he.isBlank c hc
  have hsign : sign (whole ++ '.' :: (fraction ++ e)) = (false, whole ++ '.' :: (fraction ++ e)) := by
    cases whole with
    | nil => exact sign_cons (by decide) (by decide) _
    | cons c whole =>
        have hc := hwhole c List.mem_cons_self
        exact sign_cons (by rintro rfl; cases hc) (by rintro rfl; cases hc) _
  obtain ⟨n, hn⟩ := leadingDigits_append (t := '.' :: (fraction ++ e)) hwhole (by rintro c ⟨⟩; rfl)
    0 0
  obtain ⟨n', hn'⟩ := leadingDigits_append hfraction he.digitValue?_head n 0
  have hcount : (whole.length + fraction.length == 0) = false := by
    rw [beq_eq_false_iff_ne, Ne, Nat.add_eq_zero_iff, List.length_eq_zero_iff,
      List.length_eq_zero_iff]
    exact not_and_or.mpr hne
  unfold float?
  rw [strip_of_not_blank hblank, hsign]
  dsimp only
  split
  next => rfl
  next =>
    split
    next => rfl
    next =>
      simp only [hn, hn', Nat.zero_add, hcount, Bool.false_eq_true, if_false, Option.isSome_map]
      exact he.exponent?_isSome

/-- **Digits alone** are a decimal, too. -/
theorem float?_isSome_of_digits (hds : ∀ c ∈ ds, isAsciiDigit c = true) (hne : ds ≠ []) :
    (float? ds).isSome = true := by
  have hblank : ∀ c ∈ ds, Text.isBlank c = false := fun c hc => isBlank_of_isAsciiDigit (hds c hc)
  obtain ⟨n, hn⟩ := leadingDigits_append (t := []) hds nofun 0 0
  obtain ⟨k, hk⟩ : ∃ k, ds.length = k + 1 :=
    Nat.exists_eq_succ_of_ne_zero (List.length_pos_iff.mpr hne).ne'
  have hsign : sign ds = (false, ds) := by
    obtain ⟨c, ds, rfl⟩ := List.exists_cons_of_ne_nil hne
    have hc := hds c List.mem_cons_self
    exact sign_cons (by rintro rfl; cases hc) (by rintro rfl; cases hc) _
  rw [List.append_nil, Nat.zero_add, hk] at hn
  unfold float?
  rw [strip_of_not_blank hblank, hsign]
  dsimp only
  split
  next => rfl
  next =>
    split
    next => rfl
    next => simp [hn, exponent?]

end TestSkeleton.Number
