import TestSkeleton.Text.Class
import TestSkeleton.Number.Binary64

set_option autoImplicit false

/-! # Reading numbers

Whole numbers in a base and decimal fractions, as they stand in a text with blank space around them.
Digits of any script are read.
-/

namespace TestSkeleton.Number

/-- The sign in front of a number, `true` for a minus, and what follows. -/
def sign : Text → Bool × Text
  | '-' :: t => (true, t)
  | '+' :: t => (false, t)
  | t => (false, t)

/-- How many digits a whole number in base ten may have to be read or written. -/
def maxDigits : Nat := 4300

/-- The value of a digit in bases up to sixteen. -/
def digit? (c : Char) : Option Nat := (Text.digitValue? c).orElse fun _ => Text.hexValue? c

/-- The number with these digits in a base, behind those already read. -/
def digits? (base : Nat) : Nat → Text → Option Nat
  | n, [] => some n
  | n, c :: t =>
    match digit? c with
    | some d => if d < base then digits? base (n * base + d) t else none
    | none => none

/-- The letters that may follow a zero to announce a base. -/
def baseMarks : Nat → Text
  | 2 => "bB"
  | 8 => "oO"
  | 16 => "xX"
  | _ => []

/-- Reads a whole number in a base. Blank space may stand around it, a sign before it, and the mark
of the base behind a leading zero. -/
def int? (base : Nat) (t : Text) : Option Int :=
  let (negative, u) := sign (Text.strip t)
  let u := match u with
    | '0' :: c :: rest => if (baseMarks base).contains c then rest else u
    | _ => u
  if u.isEmpty then none
  else (digits? base 0 u).map fun n => if negative then -(n : Int) else n

/-- Digits at the start of a text: their number, their count and what follows. -/
def leadingDigits : Nat → Nat → Text → Nat × Nat × Text
  | n, k, [] => (n, k, [])
  | n, k, c :: t =>
    match Text.digitValue? c with
    | some d => leadingDigits (n * 10 + d) (k + 1) t
    | none => (n, k, c :: t)

/-- The exponent at the end of a decimal, zero if the text is empty. -/
def exponent? : Text → Option Int
  | [] => some 0
  | c :: t =>
    if c == 'e' || c == 'E' then
      let (negative, u) := sign t
      match leadingDigits 0 0 u with
      | (_, 0, _) => none
      | (n, _, []) => some (if negative then -(n : Int) else n)
      | _ => none
    else none

/-- Reads a decimal number: digits with a point before, behind or among them and perhaps an
exponent, or the word for infinity or for no number. -/
def float? (t : Text) : Option Binary64 :=
  let (negative, u) := sign (Text.strip t)
  let word := u.map Char.toLower
  if word == "inf".toList || word == "infinity".toList then some (.infinite negative)
  else if word == "nan".toList then some .nan
  else
    let (n, k, rest) := leadingDigits 0 0 u
    match rest with
    | '.' :: rest =>
      let (n, k', rest) := leadingDigits n 0 rest
      if k + k' == 0 then none
      else (exponent? rest).map fun e => .ofDecimal negative n (e - k')
    | rest => if k == 0 then none else (exponent? rest).map fun e => .ofDecimal negative n e

end TestSkeleton.Number
