import TestSkeleton.Text.Basic

set_option autoImplicit false

/-! # Shortened texts

Two texts of which one is long are shown beside each other without most of what they have in common,
so that they can be told apart at a glance. What is left out is replaced by the number of its
characters.
-/

namespace TestSkeleton.Text

/-- A text with its middle left out, if the mark for that is shorter than the middle. -/
def withoutMiddle (first last : Nat) (t : Text) : Text :=
  let skipped := t.length - first - last
  if first + last + 12 < t.length then
    t.take first ++ '[' :: ofNat skipped ++ " chars]" ++ t.drop (t.length - last)
  else t

/-- The longest text that both texts start with. -/
def commonStart : Text → Text → Text
  | c :: s, d :: t => if c == d then c :: commonStart s t else []
  | _, _ => []

/-- Two texts to be shown beside each other. Texts of up to 80 characters stay as they are. In
longer ones the common start is shortened first, to the 5 characters at its front and what has room
of its end; where room is left for no more than 5, the rest is shortened too. -/
def shortenPair (s t : Text) : Text × Text :=
  let longest := max s.length t.length
  if longest ≤ 80 then (s, t)
  else
    let start := commonStart s t
    let behind (u : Text) := u.drop start.length
    let needed := longest - start.length + 17
    if 5 + needed < 80 then
      let start' := withoutMiddle 5 (80 - needed) start
      (start' ++ behind s, start' ++ behind t)
    else
      let start' := withoutMiddle 5 5 start
      (start' ++ withoutMiddle 41 5 (behind s), start' ++ withoutMiddle 41 5 (behind t))

end TestSkeleton.Text
