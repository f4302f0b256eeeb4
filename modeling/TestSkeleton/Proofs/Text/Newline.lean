import Mathlib.Tactic.SplitIfs
import TestSkeleton.Text.Quoted

set_option autoImplicit false

/-! # Texts on one line

Reading a file turns each carriage return into a line feed, alone or together with a line feed
behind it. A text with neither of the two (`Unbroken`) stays as it is, and so do the parts of a text
that it separates. A quoted text is always of that kind.
-/

namespace TestSkeleton.Text

variable {s t : Text} {c : Char}

/-- The text has neither a line feed nor a carriage return. -/
def Unbroken (t : Text) : Prop := ∀ c ∈ t, c ≠ '\n' ∧ c ≠ '\r'

instance (t : Text) : Decidable t.Unbroken := List.decidableBAll _ t

theorem unbroken_append : Unbroken (s ++ t) ↔ Unbroken s ∧ Unbroken t := List.forall_mem_append

theorem unbroken_cons : Unbroken (c :: t) ↔ (c ≠ '\n' ∧ c ≠ '\r') ∧ Unbroken t :=
  List.forall_mem_cons

theorem unbroken_replicate (n : Nat) : Unbroken (List.replicate n ' ') := by
  intro c hc
  rw [List.eq_of_mem_replicate hc]
  decide

/-- A text without blank space has no line breaks. -/
theorem unbroken_of_not_blank (h : ∀ c ∈ t, isBlank c = false) : Unbroken t := by
  intro c hc
  constructor <;> (rintro rfl; exact absurd (h _ hc) (by decide))

/-! ## Line feeds for all line breaks -/

theorem normalizeNewlines_cons (h : c ≠ '\r') :
    normalizeNewlines (c :: t) = c :: normalizeNewlines t := by
  rw [normalizeNewlines.eq_3 _ _ fun _ hc _ => h hc, if_neg (by simpa using h)]

theorem normalizeNewlines_append_of_unbroken (h : Unbroken s) :
    normalizeNewlines (s ++ t) = s ++ normalizeNewlines t := by
  induction s with
  | nil => rfl
  | cons c s ih =>
      obtain ⟨hc, hs⟩ := unbroken_cons.mp h
      rw [List.cons_append, normalizeNewlines_cons hc.2, ih hs, List.cons_append]

/-- The two sides of a place that no line feed is behind do not depend on each other. -/
theorem normalizeNewlines_append_cons (h : c ≠ '\n') (s t : Text) :
    normalizeNewlines (s ++ c :: t) = normalizeNewlines s ++ normalizeNewlines (c :: t) := by
  induction s using normalizeNewlines.induct with
  | case1 => rfl
  | case2 s ih => simp [normalizeNewlines, ih]
  | case3 d s hpair ih =>
      have hpair' : ∀ u, d = '\r' → s ++ c :: t = '\n' :: u → False := by
        intro u hd hu
        cases s with
        | nil => exact h (List.cons.inj hu).1
        | cons e s => exact hpair s hd (by rw [(List.cons.inj hu).1])
      rw [List.cons_append, normalizeNewlines.eq_3 _ _ hpair', ih, normalizeNewlines.eq_3 _ _ hpair,
        List.cons_append]

/-! ## Quoted texts -/

theorem unbroken_hex (width n : Nat) : Unbroken (hex width n) := by
  have hdigit : ∀ d < 16, Unbroken [Nat.digitChar d] := by decide
  have hdigits : ∀ n, Unbroken (Nat.toDigits 16 n) := by
    intro n
    induction n using Nat.strongRecOn with
    | _ n ih =>
        rw [Nat.toDigits_eq_if (by decide)]
        split
        next hn => exact hdigit n hn
        next => exact unbroken_append.mpr ⟨ih _ (by omega), hdigit _ (Nat.mod_lt n (by decide))⟩
  refine unbroken_append.mpr ⟨fun c hc => ?_, hdigits n⟩
  rw [List.eq_of_mem_replicate hc]
  decide

theorem unbroken_escapeCode (n : Nat) : Unbroken (escapeCode n) := by
  unfold escapeCode
  split_ifs <;> exact unbroken_cons.mpr ⟨by decide, unbroken_cons.mpr ⟨by decide, unbroken_hex _ _⟩⟩

theorem unbroken_quoteChar {mark : Char} (hmark : Unbroken [mark]) (c : Char) :
    Unbroken (quoteChar mark c) := by
  have hescaped {d : Char} (hd : Unbroken [d]) : Unbroken ['\\', d] :=
    unbroken_cons.mpr ⟨by decide, hd⟩
  unfold quoteChar
  split_ifs with hspecial hfeed hreturn htab
  · rcases Bool.or_eq_true _ _ ▸ hspecial with hc | hc
    · rw [eq_of_beq hc]
      exact hescaped hmark
    · rw [eq_of_beq hc]
      decide
  · decide
  · decide
  · decide
  · intro d hd
    rw [List.mem_singleton.mp hd]
    exact ⟨by simpa using hfeed, by simpa using hreturn⟩
  · exact unbroken_escapeCode _

/-- A quoted text starts with its mark, which is one of two. -/
theorem quoted_eq_cons (t : Text) :
    ∃ mark u, quoted t = mark :: u ∧ (mark = '"' ∨ mark = '\'') := by
  refine ⟨quoteMark t, t.flatMap (quoteChar (quoteMark t)) ++ [quoteMark t], rfl, ?_⟩
  unfold quoteMark
  split <;> simp

theorem unbroken_quoted (t : Text) : Unbroken (quoted t) := by
  have hmark : Unbroken [quoteMark t] := by
    unfold quoteMark
    split <;> decide
  show Unbroken ([quoteMark t] ++ t.flatMap (quoteChar (quoteMark t)) ++ [quoteMark t])
  refine unbroken_append.mpr ⟨unbroken_append.mpr ⟨hmark, fun c hc => ?_⟩, hmark⟩
  obtain ⟨d, -, hc⟩ := List.mem_flatMap.mp hc
  exact unbroken_quoteChar hmark d c hc

end TestSkeleton.Text
