import TestSkeleton.Yaml.Cursor
import TestSkeleton.Number.Reading
import TestSkeleton.Value.Basic

set_option autoImplicit false

/-! # Tags of nodes

The tag of a node says what kind of value it is. A plain scalar without a tag has one by its form:
numbers in several bases, words for true, false and nothing, and dates are told from texts here.
-/

namespace TestSkeleton.Yaml

open Text

/-- The kinds of nodes. -/
inductive Tag where
  | null | bool | int | float | binary | timestamp | omap | pairs | set | str | seq | map
  /-- The key of entries that come from other mappings. -/
  | merge
  /-- The key of the value that a mapping stands for. -/
  | value
  | unknown
deriving DecidableEq, Repr

namespace Tag

/-- What the names of the known tags start with. -/
def core : Text := "tag:yaml.org,2002:"

/-- The known tags with their names. -/
def known : List (Text × Tag) := [
  ("null", null), ("bool", bool), ("int", int), ("float", float), ("binary", binary),
  ("timestamp", timestamp), ("omap", omap), ("pairs", pairs), ("set", set), ("str", str),
  ("seq", seq), ("map", map), ("merge", merge), ("value", value)]

/-- The tag of a name. -/
def ofText (t : Text) : Tag :=
  match dropPrefix? core t with
  | some name => (known.lookup name).getD unknown
  | none => unknown

/-! ## Numbers -/

/-- Digits and the underscores that may stand between them. -/
def isDigitOrScore (c : Char) : Bool := isAsciiDigit c || c == '_'

/-- The text without a sign at its start. -/
def dropSign : Text → Text
  | '-' :: t => t
  | '+' :: t => t
  | t => t

/-- Whether each part is one of the numbers below sixty. -/
def areSixtieths (parts : List Text) : Bool :=
  !parts.isEmpty && parts.all fun
    | [d] => isAsciiDigit d
    | [t, d] => '0' ≤ t && t ≤ '5' && isAsciiDigit d
    | _ => false

/-- Whether a text has the form of a whole number. -/
def isInt (t : Text) : Bool :=
  match dropSign t with
  | '0' :: 'b' :: ds@(_ :: _) => ds.all fun c => c == '0' || c == '1' || c == '_'
  | '0' :: 'x' :: ds@(_ :: _) => ds.all fun c => (hexValue? c).isSome || c == '_'
  | ['0'] => true
  | '0' :: ds => ds.all fun c => ('0' ≤ c && c ≤ '7') || c == '_'
  | d :: ds =>
    isAsciiDigit d &&
      match splitOn ':' ds with
      | first :: parts => first.all isDigitOrScore && (parts.isEmpty || areSixtieths parts)
      | [] => false
  | [] => false

/-- Whether a text is empty or has the form of an exponent, whose sign may not be missing. -/
def isExponent : Text → Bool
  | [] => true
  | e :: s :: ds =>
    (e == 'e' || e == 'E') && (s == '-' || s == '+') && !ds.isEmpty && ds.all isAsciiDigit
  | _ => false

/-- Whether a text is one of the words for infinity behind its point. -/
def isInfinity (t : Text) : Bool := ([".inf", ".Inf", ".INF"] : List Text).contains t

/-- Whether a text has the form of a decimal fraction. -/
def isFloat (t : Text) : Bool :=
  if ([".nan", ".NaN", ".NAN"] : List Text).contains t || isInfinity (dropSign t) then true
  else
    match t with
    | '.' :: d :: ds => isAsciiDigit d && isExponent (ds.dropWhile isDigitOrScore)
    | _ =>
      match cut? '.' (dropSign t) with
      | some (whole, fraction) =>
        match splitOn ':' whole with
        | first@(d :: _) :: parts =>
          isAsciiDigit d && first.all isDigitOrScore &&
            if parts.isEmpty then isExponent (fraction.dropWhile isDigitOrScore)
            else areSixtieths parts && fraction.all isDigitOrScore
        | _ => false
      | none => false

/-! ## Dates -/

/-- One or two digits at the start of a text. -/
def oneOrTwoDigits? : Text → Option (Nat × Text)
  | a :: b :: t =>
    if !isAsciiDigit a then none
    else if isAsciiDigit b then some ((a.toNat - 48) * 10 + (b.toNat - 48), t)
    else some (a.toNat - 48, b :: t)
  | [a] => if isAsciiDigit a then some (a.toNat - 48, []) else none
  | [] => none

/-- Two digits at the start of a text. -/
def twoDigits? : Text → Option (Nat × Text)
  | a :: b :: t =>
    if isAsciiDigit a && isAsciiDigit b then some ((a.toNat - 48) * 10 + (b.toNat - 48), t)
    else none
  | _ => none

/-- Four digits at the start of a text. -/
def fourDigits? (t : Text) : Option (Nat × Text) := do
  let (a, t) ← twoDigits? t
  let (b, t) ← twoDigits? t
  return (a * 100 + b, t)

/-- A character at the start of a text. -/
def char? (c : Char) : Text → Option Text
  | [] => none
  | d :: t => if c == d then some t else none

/-- The first six digits of a fraction of a second as microseconds. -/
def microseconds (digits : Text) : Nat :=
  let ds := digits.take 6
  ds.foldl (fun n d => n * 10 + (d.toNat - 48)) 0 * Nat.pow 10 (6 - ds.length)

/-- The offset of a time zone, which is the rest of the text. -/
def zone? (t : Text) : Option (Option Int) :=
  match t with
  | [] => some none
  | _ =>
    match t.dropWhile fun c => c == ' ' || c == '\t' with
    | ['Z'] => some (some 0)
    | s :: u =>
      if s == '-' || s == '+' then do
        let (hours, u) ← oneOrTwoDigits? u
        let (minutes, u) ← match u with
          | [] => some (0, [])
          | _ => char? ':' u >>= twoDigits?
        let offset : Int := hours * 60 + minutes
        if u.isEmpty then some (some (if s == '-' then -offset else offset)) else none
      else none
    | [] => none

/-- A date, and the time behind it if there is one. -/
inductive Stamp where
  /-- A date, and whether month and day have two digits each. -/
  | date (d : Date) (full : Bool)
  | moment (m : Moment)

/-- Reads a date or a moment. -/
def stamp? (t : Text) : Option Stamp := do
  let (year, u) ← fourDigits? t
  let (month, u) ← char? '-' u >>= oneOrTwoDigits?
  let (day, u) ← char? '-' u >>= oneOrTwoDigits?
  match u with
  | [] => return .date ⟨year, month, day⟩ (t.length == 10)
  | c :: v =>
    let v ←
      if c == 'T' || c == 't' then some v
      else if c == ' ' || c == '\t' then some (v.dropWhile fun c => c == ' ' || c == '\t')
      else none
    let (hour, v) ← oneOrTwoDigits? v
    let (minute, v) ← char? ':' v >>= twoDigits?
    let (second, v) ← char? ':' v >>= twoDigits?
    let (fraction, v) := match v with
      | '.' :: w => (w.takeWhile isAsciiDigit, w.dropWhile isAsciiDigit)
      | _ => ([], v)
    let offset ← zone? v
    return .moment ⟨⟨year, month, day⟩, hour, minute, second, microseconds fraction, offset⟩

/-- Whether a text has the form of a date or a moment. A date alone needs all of its digits. -/
def isTimestamp (t : Text) : Bool :=
  match stamp? t with
  | some (.date _ full) => full
  | some (.moment _) => true
  | none => false

/-! ## Plain scalars -/

/-- The words for nothing. -/
def nullWords : List Text := ["~", "null", "Null", "NULL", ""]

/-- The words for true. -/
def trueWords : List Text := ["yes", "Yes", "YES", "true", "True", "TRUE", "on", "On", "ON"]

/-- The words for false. -/
def falseWords : List Text := ["no", "No", "NO", "false", "False", "FALSE", "off", "Off", "OFF"]

/-- The tag of a plain scalar by its form. A line feed at its end does not count, unless it is all
there is. -/
def ofPlain (t : Text) : Tag :=
  let u := (dropSuffix? ['\n'] t).getD t
  if t == ['\n'] then str
  else if nullWords.contains u then null
  else if trueWords.contains u || falseWords.contains u then bool
  else if isFloat u then float
  else if isInt u then int
  else if isTimestamp u then timestamp
  else if u == ['<', '<'] then merge
  else if u == ['='] then value
  else if (["!", "&", "*"] : List Text).contains u then unknown
  else str

end Tag

end TestSkeleton.Yaml
