import TestSkeleton.Proofs.Yaml.Decimal

set_option autoImplicit false

/-! # Plain scalars and their values

A plain scalar without a tag has the tag that its form tells (`hasForm_ofPlain`), and from then on
its value is asked of it. What has the form of a word or of a number has a value, with three
exceptions for numbers; a date has none if the calendar does not have it, and neither have the keys
and marks of the syntax (`ofScalar_ofPlain_eq_error_iff`).
-/

namespace TestSkeleton.Yaml

open Text

variable {t : Text} {f : Fault}

/-- What the form of a plain scalar is, that its tag tells. -/
def HasForm (t : Text) : Tag → Prop
  | .bool => Tag.trueWords.contains t = true ∨ Tag.falseWords.contains t = true
  | .int => Tag.isInt t = true
  | .float => Tag.isFloat t = true
  | .timestamp => Tag.isTimestamp t = true
  | .null | .str | .merge | .value | .unknown => True
  | .binary | .omap | .pairs | .set | .seq | .map => False

theorem hasForm_ofPlain (hend : dropSuffix? ['\n'] t = none) : HasForm t (Tag.ofPlain t) := by
  unfold Tag.ofPlain
  rw [hend, Option.getD_none]
  dsimp only
  split
  next => trivial
  split
  next => trivial
  split
  next h => exact Bool.or_eq_true .. |>.mp h
  split
  next h => exact h
  split
  next h => exact h
  split
  next h => exact h
  split
  next => trivial
  split
  next => trivial
  split <;> trivial

theorem readBool_ne_error (h : Tag.trueWords.contains t = true ∨ Tag.falseWords.contains t = true) :
    readBool t ≠ .error f := by
  have hwords : ∀ w ∈ Tag.trueWords ++ Tag.falseWords, (readBool w).isOk = true := by decide
  have hmem : t ∈ Tag.trueWords ++ Tag.falseWords := by
    rw [List.mem_append]
    exact h.imp List.contains_iff_mem.mp List.contains_iff_mem.mp
  intro hf
  have hok := hwords t hmem
  rw [hf] at hok
  cases hok

/-- Whether the calendar has a date, or a moment. -/
def Tag.Stamp.exists? : Tag.Stamp → Bool
  | .date d _ => d.exists?
  | .moment m => m.exists?

/-- A date or moment that the calendar does not have. -/
def IsNoSuchDate (t : Text) : Prop := ∃ st, Tag.stamp? t = some st ∧ st.exists? = false

theorem isNoSuchDate_iff {st : Tag.Stamp} (h : Tag.stamp? t = some st) :
    IsNoSuchDate t ↔ st.exists? = false := by
  constructor
  · rintro ⟨st', hst', hmissing⟩
    rw [h] at hst'
    obtain rfl := Option.some.inj hst'
    exact hmissing
  · exact fun hmissing => ⟨st, h, hmissing⟩

theorem readStamp_eq_error_iff (hend : dropSuffix? ['\n'] t = none)
    (h : Tag.isTimestamp t = true) :
    readStamp t = .error f ↔ f = .noSuchDate ∧ IsNoSuchDate t := by
  unfold readStamp
  rw [hend, Option.getD_none]
  cases hst : Tag.stamp? t with
  | none =>
      rw [Tag.isTimestamp, hst] at h
      cases h
  | some st =>
      rw [isNoSuchDate_iff hst]
      cases st with
      | date d full =>
          dsimp only [Tag.Stamp.exists?]
          cases d.exists? with
          | true => exact iff_of_false nofun fun h => by cases h.2
          | false => simp [eq_comm]
      | moment m =>
          dsimp only [Tag.Stamp.exists?]
          cases m.exists? with
          | true => exact iff_of_false nofun fun h => by cases h.2
          | false => simp [eq_comm]

/-- Why a plain scalar does not have the value that its form asks for. -/
inductive PlainFault (t : Text) : Fault → Prop where
  /-- The keys `<<` and `=` and the marks of tags and anchors are no values. -/
  | reserved (h : Tag.ofPlain t ∈ [Tag.merge, Tag.value, Tag.unknown]) : PlainFault t .malformed
  | digitless (htag : Tag.ofPlain t = .int) (h : IsDigitless t) : PlainFault t .notANumber
  | tooLong (htag : Tag.ofPlain t = .int) (h : IsTooLong t) : PlainFault t .tooManyDigits
  | sixties (htag : Tag.ofPlain t = .float) (h : maxSixties ≤ t.count ':') :
    PlainFault t .powerOverflow
  | noSuchDate (htag : Tag.ofPlain t = .timestamp) (h : IsNoSuchDate t) : PlainFault t .noSuchDate

/-- The fault of a plain scalar belongs to the tag that its form gives it. -/
theorem plainFault_iff {tag : Tag} (htag : Tag.ofPlain t = tag) :
    PlainFault t f ↔ match tag with
      | .int => f = .notANumber ∧ IsDigitless t ∨ f = .tooManyDigits ∧ IsTooLong t
      | .float => f = .powerOverflow ∧ maxSixties ≤ t.count ':'
      | .timestamp => f = .noSuchDate ∧ IsNoSuchDate t
      | .merge | .value | .unknown => f = .malformed
      | _ => False := by
  constructor
  · rintro (h | ⟨h, hf⟩ | ⟨h, hf⟩ | ⟨h, hf⟩ | ⟨h, hf⟩)
    · rw [htag] at h
      simp only [List.mem_cons, List.not_mem_nil, or_false] at h
      rcases h with rfl | rfl | rfl <;> rfl
    all_goals
      obtain rfl := htag.symm.trans h
      simp [hf]
  · cases tag with
    | int =>
        rintro (⟨rfl, h⟩ | ⟨rfl, h⟩)
        · exact .digitless htag h
        · exact .tooLong htag h
    | float => rintro ⟨rfl, h⟩; exact .sixties htag h
    | timestamp => rintro ⟨rfl, h⟩; exact .noSuchDate htag h
    | merge | value | unknown => rintro rfl; exact .reserved (by simp [htag])
    | _ => exact False.elim

/-- **A plain scalar has the value** that its form asks for, but for these faults. -/
theorem ofScalar_ofPlain_eq_error_iff (hend : dropSuffix? ['\n'] t = none) :
    ofScalar (Tag.ofPlain t) t = .error f ↔ PlainFault t f := by
  have hform := hasForm_ofPlain hend
  generalize htag : Tag.ofPlain t = tag at hform
  rw [plainFault_iff htag]
  cases tag with
  | null | str => exact iff_of_false nofun False.elim
  | bool => exact iff_of_false (fun h => readBool_ne_error hform (map_eq_error_iff.mp h)) False.elim
  | int => exact map_eq_error_iff.trans (readInt_eq_error_iff hform)
  | float => exact map_eq_error_iff.trans (readFloat_eq_error_iff hform)
  | timestamp => exact readStamp_eq_error_iff hend hform
  | merge | value | unknown => simp [ofScalar, eq_comm]
  | binary | omap | pairs | set | seq | map => exact hform.elim

end TestSkeleton.Yaml
