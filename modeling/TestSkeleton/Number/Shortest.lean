import TestSkeleton.Text.Basic
import TestSkeleton.Number.Binary64

set_option autoImplicit false

/-! # Shortest decimal text of a number

A binary number is written with the fewest significant digits that read back to it, and with the
digits nearest to it among those. A decimal grid with `n` digits holds a number that reads back if
and only if one of the value's two neighbours on that grid does, so only the two are tried.

`NumberFormat` fixes how the digits are laid out.
-/

namespace TestSkeleton.Binary64

/-- `digits * 10 ^ exponent`, with the given count of digits. -/
structure Digits where
  digits : Text
  exponent : Int

/-- The power of ten below a positive fraction: the `k` with `10 ^ k ≤ num / den < 10 ^ (k + 1)`. -/
def decimalExponent (num den : Nat) : Int :=
  -- 0.30103 is a little more than the logarithm of two
  let guess := (((num.log2 : Int) - den.log2) * 30103 - 100000) / 100000
  let reaches (k : Int) : Bool :=
    if 0 ≤ k then den * Nat.pow 10 k.toNat ≤ num else den ≤ num * Nat.pow 10 (-k).toNat
  -- the guess is too small by at most two
  if reaches (guess + 2) then guess + 2 else if reaches (guess + 1) then guess + 1
  else if reaches guess then guess else guess - 1

/-- The neighbours of `num / den` on the grid of step `10 ^ k` that read back to `x`, the nearer one
first. -/
def readingBack (x : Binary64) (num den : Nat) (k : Int) : Option Nat :=
  let (n, d) :=
    if 0 ≤ k then (num, den * Nat.pow 10 k.toNat) else (num * Nat.pow 10 (-k).toNat, den)
  let below := n / d
  let near := roundQuotient n d
  let far := if near == below then below + 1 else below
  let back (c : Nat) : Bool := c != 0 && ofDecimal false c k == x
  if back near then some near else if back far then some far else none

/-- The fewest digits that read back to the positive number `num / den = x`, trying `n` digits and
then one more at a time while `fuel` lasts. -/
def shortestFrom (x : Binary64) (num den : Nat) (top : Int) : Nat → Nat → Nat × Int
  | 0, n => (0, top - n)
  | fuel + 1, n =>
    let k := top + 1 - n
    match readingBack x num den k with
    | some digits => (digits, k)
    | none => shortestFrom x num den top fuel (n + 1)

/-- The digits of a positive number and the position of its point: `0.d₁d₂… * 10 ^ point`. Seventeen
digits always read back. -/
def shortestDigits (significand : Nat) (exponent : Int) : Text × Int :=
  let (num, den) := scale significand exponent
  let (digits, k) :=
    shortestFrom (finite false significand exponent) num den (decimalExponent num den) 17 1
  let text := Text.ofNat digits
  -- a grid number such as 10 has trailing zeros that are no significant digits
  (Text.dropEndWhile (· == '0') text, (text.length : Int) + k)

/-- How the digits of a number are laid out. -/
structure NumberFormat where
  /-- The least position of the point that is written without an exponent. -/
  minPoint : Int
  /-- The greatest position of the point that is written without an exponent. -/
  maxPoint : Int
  /-- What marks a whole number that is written without an exponent. -/
  wholeMark : Text
  /-- Digits that an exponent has at least. -/
  exponentWidth : Nat

/-- The text of a positive number with these digits and this position of the point. -/
def NumberFormat.layOut (f : NumberFormat) (digits : Text) (point : Int) : Text :=
  if f.minPoint ≤ point && point ≤ f.maxPoint then
    if point ≤ 0 then ['0', '.'] ++ List.replicate (-point).toNat '0' ++ digits
    else if digits.length ≤ point.toNat then
      digits ++ List.replicate (point.toNat - digits.length) '0' ++ f.wholeMark
    else digits.take point.toNat ++ '.' :: digits.drop point.toNat
  else
    let mantissa :=
      match digits with
      | d :: rest@(_ :: _) => d :: '.' :: rest
      | ds => ds
    let exponent := point - 1
    mantissa ++ 'e' :: (if exponent < 0 then '-' else '+')
      :: Text.padded f.exponentWidth exponent.natAbs

/-- The text of a number. -/
def format (f : NumberFormat) : Binary64 → Text
  | nan => "nan"
  | infinite s => (if s then ['-'] else []) ++ "inf".toList
  | finite s m e =>
    (if s then ['-'] else [])
      ++ if m == 0 then '0' :: f.wholeMark
        else
          let (digits, point) := shortestDigits m e
          f.layOut digits point

/-- Numbers from `0.0001` up to below `10 ^ 16` are written without an exponent, whole ones with
`.0`. -/
def plain : NumberFormat := ⟨-3, 16, ".0", 2⟩

/-- As `plain`, but whole numbers are written without a point. This is the format of the parts of a
complex number. -/
def bare : NumberFormat := { plain with wholeMark := [] }

/-- The text of a number in the plain format. -/
def toText (x : Binary64) : Text := format plain x

/-- The text of a complex number: the imaginary part alone if the real part is the positive zero,
and both in parentheses otherwise. -/
def complexText (re im : Binary64) : Text :=
  match re with
  | finite false 0 _ => format bare im ++ ['j']
  | _ =>
    let imag := format bare im
    let sign : Text := match imag with
      | '-' :: _ => []
      | _ => ['+']
    '(' :: format bare re ++ sign ++ imag ++ ['j', ')']

end TestSkeleton.Binary64
