import TestSkeleton.Proofs.Text.Parts
import TestSkeleton.Proofs.Text.Strip

set_option autoImplicit false

/-! # Joined texts

Texts that are joined with a separator can be taken apart again at the separator, if they do not hold
the character that it starts with (`pieces_joinWith`), and the joined text starts and ends as they do
(`strip_joinWith`).
-/

namespace TestSkeleton.Text

/-! ## Taking apart -/

/-- The pieces of a text between the places of `sep`, which are looked for from the left. The number
is that of the characters of `sep` that are still to be passed over. -/
def piecesFrom (sep : Text) : Nat → Text → List Text
  | _, [] => [[]]
  | n + 1, _ :: t => piecesFrom sep n t
  | 0, c :: t =>
    if startsWith sep (c :: t) then [] :: piecesFrom sep (sep.length - 1) t
    else
      match piecesFrom sep 0 t with
      | [] => [[c]]
      | p :: ps => (c :: p) :: ps

/-- The pieces of a text between the places where a separator stands. -/
def pieces (sep t : Text) : List Text := piecesFrom sep 0 t

theorem piecesFrom_append (sep s t : Text) : piecesFrom sep s.length (s ++ t) = pieces sep t := by
  induction s with
  | nil => rfl
  | cons c s ih =>
      rw [List.length_cons, List.cons_append, piecesFrom]
      exact ih

theorem startsWith_append (s t : Text) : startsWith s (s ++ t) = true := by
  rw [startsWith, dropPrefix?_append]
  rfl

theorem startsWith_cons_of_ne {c d : Char} (h : c ≠ d) (s t : Text) :
    startsWith (c :: s) (d :: t) = false := by
  have hcd : (c == d) = false := beq_eq_false_iff_ne.mpr h
  rw [startsWith, dropPrefix?, hcd]
  rfl

section Separator

variable {c : Char} {s l : Text}

theorem pieces_cons_of_ne {d : Char} (h : d ≠ c) (t : Text) :
    pieces (c :: s) (d :: t) = match pieces (c :: s) t with
      | [] => [[d]]
      | p :: ps => (d :: p) :: ps := by
  rw [pieces, piecesFrom, startsWith_cons_of_ne h.symm]
  rfl

/-- A separator ends the piece before it. -/
theorem pieces_append_separator (h : c ∉ l) (t : Text) :
    pieces (c :: s) (l ++ ((c :: s) ++ t)) = l :: pieces (c :: s) t := by
  induction l with
  | nil =>
      rw [List.nil_append, List.cons_append, pieces, piecesFrom, ← List.cons_append,
        startsWith_append, if_pos rfl]
      exact congrArg _ (piecesFrom_append (c :: s) s t)
  | cons d l ih =>
      obtain ⟨hd, hl⟩ : c ≠ d ∧ c ∉ l := by simpa using h
      rw [List.cons_append, pieces_cons_of_ne (Ne.symm hd), ih hl]

theorem pieces_of_not_mem (h : c ∉ l) : pieces (c :: s) l = [l] := by
  induction l with
  | nil => rfl
  | cons d l ih =>
      obtain ⟨hd, hl⟩ : c ≠ d ∧ c ∉ l := by simpa using h
      rw [pieces_cons_of_ne (Ne.symm hd), ih hl]

/-- **Joined texts are taken apart again**, if the first character of the separator is in none of
them. -/
theorem pieces_joinWith {ls : List Text} (hne : ls ≠ []) (h : ∀ l ∈ ls, c ∉ l) :
    pieces (c :: s) (joinWith (c :: s) ls) = ls := by
  induction ls with
  | nil => exact absurd rfl hne
  | cons l ls ih =>
      obtain ⟨hl, hls⟩ := List.forall_mem_cons.mp h
      cases ls with
      | nil =>
          rw [joinWith_singleton]
          exact pieces_of_not_mem hl
      | cons l' ls =>
          rw [joinWith_cons_cons, List.append_assoc, pieces_append_separator hl]
          exact congrArg _ (ih (List.cons_ne_nil _ _) hls)

end Separator

/-! ## The ends of joined texts -/

/-- Joined texts start as the first one and end as the last one. -/
theorem head?_joinWith_cons (sep : Text) {p : Text} (hp : p ≠ []) (ps : List Text) :
    (joinWith sep (p :: ps)).head? = p.head? := by
  cases ps with
  | nil => rw [joinWith_singleton]
  | cons p' ps => rw [joinWith_cons_cons, List.append_assoc, List.head?_append_of_ne_nil _ hp]

theorem joinWith_cons_ne_nil (sep : Text) {p : Text} (hp : p ≠ []) (ps : List Text) :
    joinWith sep (p :: ps) ≠ [] := by
  intro hnil
  have hhead := head?_joinWith_cons sep hp ps
  rw [hnil] at hhead
  exact hp (List.head?_eq_none_iff.mp hhead.symm)

theorem exists_getLast?_joinWith (sep : Text) {ps : List Text} (hne : ps ≠ [])
    (h : ∀ p ∈ ps, p ≠ []) : ∃ p ∈ ps, (joinWith sep ps).getLast? = p.getLast? := by
  induction ps with
  | nil => exact absurd rfl hne
  | cons p ps ih =>
      obtain ⟨hp, hps⟩ := List.forall_mem_cons.mp h
      cases ps with
      | nil => exact ⟨p, List.mem_cons_self, by rw [joinWith_singleton]⟩
      | cons p' ps =>
          obtain ⟨q, hq, hlast⟩ := ih (List.cons_ne_nil _ _) hps
          have hrest : joinWith sep (p' :: ps) ≠ [] :=
            joinWith_cons_ne_nil sep (hps p' List.mem_cons_self) ps
          refine ⟨q, List.mem_cons_of_mem p hq, ?_⟩
          rw [joinWith_cons_cons, List.getLast?_append_of_ne_nil _ hrest, hlast]

/-- **Joined texts need no stripping** if none of them does. -/
theorem strip_joinWith {sep : Text} {ps : List Text} (hne : ∀ p ∈ ps, p ≠ [])
    (htrimmed : ∀ p ∈ ps, strip p = p) : strip (joinWith sep ps) = joinWith sep ps := by
  cases ps with
  | nil => rfl
  | cons p ps =>
      refine strip_eq_self_iff.mpr ⟨?_, ?_⟩
      · rw [head?_joinWith_cons sep (hne p List.mem_cons_self)]
        exact (strip_eq_self_iff.mp (htrimmed p List.mem_cons_self)).1
      · obtain ⟨q, hq, hlast⟩ := exists_getLast?_joinWith sep (List.cons_ne_nil p ps) hne
        rw [hlast]
        exact (strip_eq_self_iff.mp (htrimmed q hq)).2

end TestSkeleton.Text
