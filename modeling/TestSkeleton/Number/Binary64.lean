set_option autoImplicit false

/-! # Binary floating-point numbers

The numbers of the 64-bit binary format, as exact values: a sign, a whole significand and a power of
two, or an infinity, or not a number. Reading, adding and multiplying go through exact fractions and
one rounding function, to nearest with ties to the even significand.

A finite number is kept normalised by that function: its significand has 53 bits, or fewer if its
exponent is the least one.
-/

namespace TestSkeleton

/-- A number of the 64-bit binary floating-point format. -/
inductive Binary64 where
  /-- The number `significand * 2 ^ exponent`, negated if `negative`. Both zeros have the
  significand `0` and differ in sign. -/
  | finite (negative : Bool) (significand : Nat) (exponent : Int)
  | infinite (negative : Bool)
  | nan
deriving DecidableEq, Repr, Inhabited

namespace Binary64

/-- The least exponent of a finite number. -/
def minExponent : Int := -1074

/-- The greatest exponent of a finite number. -/
def maxExponent : Int := 971

/-- `n * 2 ^ e` as a fraction. -/
def scale (n : Nat) (e : Int) : Nat × Nat :=
  if 0 ≤ e then (n * Nat.pow 2 e.toNat, 1) else (n, Nat.pow 2 (-e).toNat)

/-- The quotient of two numbers, rounded to nearest, ties to even. -/
def roundQuotient (num den : Nat) : Nat :=
  let q := num / den
  let twice := 2 * (num % den)
  if twice < den then q else if den < twice then q + 1 else q + q % 2

/-- The number nearest to `num / den`, ties to the even significand. A fraction beyond the greatest
finite number by half a unit or more becomes infinite. -/
def ofFraction (negative : Bool) (num den : Nat) : Binary64 :=
  if num == 0 || den == 0 then finite negative 0 minExponent
  else
    -- the exponent at which the quotient has 53 bits, or one less than that
    let guess : Int := (num.log2 : Int) - den.log2 - 52
    let bits (e : Int) : Nat :=
      if 0 ≤ e then num / (den * Nat.pow 2 e.toNat) else num * Nat.pow 2 (-e).toNat / den
    let exponent := max minExponent (if bits guess < Nat.pow 2 52 then guess - 1 else guess)
    let q :=
      if 0 ≤ exponent then roundQuotient num (den * Nat.pow 2 exponent.toNat)
      else roundQuotient (num * Nat.pow 2 (-exponent).toNat) den
    let (significand, exponent) :=
      if q == Nat.pow 2 53 then (Nat.pow 2 52, exponent + 1) else (q, exponent)
    if maxExponent < exponent then infinite negative else finite negative significand exponent

/-- The number nearest to an integer. -/
def ofInt (n : Int) : Binary64 := ofFraction (n < 0) n.natAbs 1

/-- The number nearest to `digits * 10 ^ exponent`. Exponents that decide the result by their size
alone are not carried out. -/
def ofDecimal (negative : Bool) (digits : Nat) (exponent : Int) : Binary64 :=
  if digits == 0 then finite negative 0 minExponent
  else
    let size := (digits.log2 : Int)
    if 400 < exponent then infinite negative
    else if exponent < -(400 + size) then finite negative 0 minExponent
    else if 0 ≤ exponent then ofFraction negative (digits * Nat.pow 10 exponent.toNat) 1
    else ofFraction negative digits (Nat.pow 10 (-exponent).toNat)

/-- The number with the other sign. -/
def neg : Binary64 → Binary64
  | finite s m e => finite (!s) m e
  | infinite s => infinite (!s)
  | nan => nan

/-- The number nearest to `n / den`. -/
def ofExact (n : Int) (den : Nat) : Binary64 := ofFraction (n < 0) n.natAbs den

/-- Numerator and denominator of a finite number. -/
def toFraction? : Binary64 → Option (Int × Nat)
  | finite s m e =>
    let (n, d) := scale m e
    some (if s then -(n : Int) else n, d)
  | _ => none

/-- The sum of two numbers. -/
def add : Binary64 → Binary64 → Binary64
  | nan, _ | _, nan => nan
  | infinite s, infinite t => if s == t then infinite s else nan
  | infinite s, _ | _, infinite s => infinite s
  | finite s m e, finite t n f =>
    if m == 0 && n == 0 then finite (s && t) 0 minExponent
    else
      match toFraction? (finite s m e), toFraction? (finite t n f) with
      | some (a, b), some (c, d) => ofExact (a * d + c * b) (b * d)
      | _, _ => nan

/-- The product of a number and a whole number. -/
def mulNat (x : Binary64) (k : Nat) : Binary64 :=
  match x with
  | nan => nan
  | infinite s => if k == 0 then nan else infinite s
  | finite s m e =>
    let (n, d) := scale m e
    ofFraction s (n * k) d

/-! ## Comparison -/

/-- Whether the number is one of the two zeros. -/
def isZero : Binary64 → Bool
  | finite _ m _ => m == 0
  | _ => false

/-- The whole number equal to this one, if there is one. -/
def toInt? : Binary64 → Option Int
  | x =>
    match toFraction? x with
    | some (n, d) => if n % d == 0 then some (n / d) else none
    | none => none

/-- How two fractions compare. -/
def compareFractions (x y : Int × Nat) : Ordering := compare (x.1 * y.2) (y.1 * x.2)

/-- How two numbers compare by value; `none` if one of them is not a number. -/
def compare? : Binary64 → Binary64 → Option Ordering
  | nan, _ | _, nan => none
  | infinite s, infinite t => some (if s == t then .eq else if s then .lt else .gt)
  | infinite s, _ => some (if s then .lt else .gt)
  | _, infinite s => some (if s then .gt else .lt)
  | x, y =>
    match toFraction? x, toFraction? y with
    | some p, some q => some (compareFractions p q)
    | _, _ => none

/-- How a number compares by value with an integer, without rounding the integer. -/
def compareInt? (x : Binary64) (n : Int) : Option Ordering :=
  match x with
  | nan => none
  | infinite s => some (if s then .lt else .gt)
  | x => (toFraction? x).map fun p => compareFractions p (n, 1)

end Binary64

end TestSkeleton
