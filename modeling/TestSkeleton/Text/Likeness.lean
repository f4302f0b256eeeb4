import TestSkeleton.Text.Basic

set_option autoImplicit false

/-! # Likeness of texts

Texts are as alike as they have characters in common blocks. The blocks are found by looking for the
longest one first, and then for others on both sides of it. Texts that are alike enough are worth
being offered to someone who mistyped one of them.
-/

namespace TestSkeleton.Text

/-- A block of characters that two texts have in common, and where it starts in each. -/
structure Block where
  left : Nat
  right : Nat
  length : Nat
deriving DecidableEq, Repr

/-- The length of what two texts start with in common. -/
def commonLength : Text → Text → Nat
  | c :: s, d :: t => if c == d then commonLength s t + 1 else 0
  | _, _ => 0

/-- The longest block that starts at the start of `s`, which is at the place `left` of its text, and
anywhere in `t`; of several, the first. -/
def longestAt (s : Text) (left : Nat) : Text → Nat → Block → Block
  | [], _, best => best
  | d :: t, right, best =>
    let n := commonLength s (d :: t)
    longestAt s left t (right + 1) (if best.length < n then ⟨left, right, n⟩ else best)

/-- The longest block that `s`, from the place `left` of its text on, has in common with `t`; of
several, the first. -/
def longestFrom : Text → Nat → Text → Block → Block
  | [], _, _, best => best
  | c :: s, left, t, best => longestFrom s (left + 1) t (longestAt (c :: s) left t 0 best)

/-- The longest block that two texts have in common. Its length is zero if there is none. -/
def longestBlock (s t : Text) : Block := longestFrom s 0 t ⟨0, 0, 0⟩

/-- How many characters two texts have in common blocks. Each block takes characters off the first
text, of which there are `fuel` at most. -/
def blockCharacters : Nat → Text → Text → Nat
  | 0, _, _ => 0
  | fuel + 1, s, t =>
    let b := longestBlock s t
    if b.length == 0 then 0
    else
      blockCharacters fuel (s.take b.left) (t.take b.right) + b.length
        + blockCharacters fuel (s.drop (b.left + b.length)) (t.drop (b.right + b.length))

/-- How many characters two texts have in common. -/
def common (s t : Text) : Nat := blockCharacters s.length s t

/-- Whether three fifths of the characters of two texts are common to them. -/
def isLike (s t : Text) : Bool := 6 * (s.length + t.length) ≤ 20 * common s t

/-- Whether a text comes before another one in the order of a dictionary, or is the same. -/
def precedes : Text → Text → Bool
  | [], _ => true
  | _ :: _, [] => false
  | c :: s, d :: t => if c == d then precedes s t else c < d

/-- Whether the first of two texts is more like `t` than the second. Of texts that are equally like
it, the one that comes last in a dictionary counts as more. -/
def isLikerThan (t s s' : Text) : Bool :=
  let share := common s t * (s'.length + t.length)
  let share' := common s' t * (s.length + t.length)
  if share == share' then precedes s' s else share' < share

/-- How many texts are offered at most. -/
def offerLimit : Nat := 3

/-- The texts among `ss` that are most like `t`, in the order of a dictionary. -/
def mostLike (ss : List Text) (t : Text) : List Text :=
  let alike := (ss.filter fun s => isLike s t).mergeSort (isLikerThan t)
  (alike.take offerLimit).mergeSort precedes

end TestSkeleton.Text
