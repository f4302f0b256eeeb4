import TestSkeleton.Calendar
import TestSkeleton.Text.Class

set_option autoImplicit false

/-! # Reading moments

A moment is written as a date and a time with one character between them. A date is a year with a
month and a day, or a year with a week and perhaps a day of the week; hyphens stand between all of
its parts or between none. A time is hours, perhaps with minutes and seconds, between which colons
may stand, and perhaps a fraction of a second. A `Z` behind the time stands for universal time; a
sign and a second time, for how far the time zone is ahead of it or behind.

What follows the parts of a time without belonging to them is left over. In front of a time zone it
is passed over; anywhere else nothing may be left over but what stands behind a zero character.
-/

namespace TestSkeleton

open Text

/-- Reads a number of `n` digits. -/
def Text.fixedNumber? (n : Nat) (t : Text) : Option (Nat × Text) :=
  let ds := t.take n
  if ds.length == n && ds.all isAsciiDigit then
    some (ds.foldl (fun m c => m * 10 + (digitValue? c).getD 0) 0, t.drop n)
  else none

namespace Date

/-- Takes a hyphen away where hyphens stand between the parts, and nothing where none do. -/
def separated? (hyphens : Bool) (t : Text) : Option Text :=
  match hyphens, t with
  | true, '-' :: u => some u
  | false, '-' :: _ => none
  | true, _ => none
  | false, u => some u

/-- Reads a date. -/
def ofText? (t : Text) : Option Date := do
  let (year, t) ← fixedNumber? 4 t
  let hyphens := t.head? == some '-'
  match ← separated? hyphens t with
  | 'W' :: t =>
    let (week, t) ← fixedNumber? 2 t
    if t.isEmpty then ofWeek? year week 1
    else
      let (weekday, t) ← fixedNumber? 1 (← separated? hyphens t)
      if t.isEmpty then ofWeek? year week weekday else none
  | t =>
    let (month, t) ← fixedNumber? 2 t
    let (day, t) ← fixedNumber? 2 (← separated? hyphens t)
    let d : Date := ⟨year, month, day⟩
    if t.isEmpty && d.exists? then some d else none

/-- The length of the date at the start of a moment. Where a hyphen behind a week may stand before
the day of the week or before the time, two digits behind it are hours. -/
def lengthIn (t : Text) : Nat :=
  let isDigitAt (i : Nat) : Bool := t[i]?.any isAsciiDigit
  if t.length == 7 then 7
  else if t[4]? == some '-' then
    if t[5]? == some 'W' then if t[8]? == some '-' && !isDigitAt 10 then 10 else 8
    else 10
  else if t[4]? == some 'W' then
    let ending := 7 + ((t.drop 7).takeWhile isAsciiDigit).length
    if ending < 9 then ending else if ending % 2 == 0 then 7 else 8
  else 8

end Date

/-- A time of day as it is written. -/
structure ClockTime where
  hour : Nat
  minute : Nat := 0
  second : Nat := 0
  microsecond : Nat := 0
deriving DecidableEq, Repr

namespace ClockTime

/-- Reads a fraction of a second, of which six digits count; further digits are passed over. -/
def fraction? (t : Text) : Option (Nat × Text) := do
  let ds := t.take 6
  if ds.isEmpty || !ds.all isAsciiDigit then none
  else
    let (n, _) ← fixedNumber? 6 ((ds ++ ['0', '0', '0', '0', '0']).take 6)
    return (n, (t.drop 6).dropWhile isAsciiDigit)

/-- The parts of a time, the first of them hours, with its microseconds and what is left over. -/
structure Reading where
  parts : List Nat
  microsecond : Nat := 0
  rest : Text := []

/-- Reads at most `n` parts of a time. Whether colons stand between them is seen behind the first
part, and `colons` says so from then on. A point or a comma behind a part starts a fraction; so does
a colon behind the last part or, where there are no colons, nothing at all. A single character
behind a part is left over. -/
def parts? (colons : Option Bool) : Nat → Text → Option Reading
  | 0, t => do
    let (microsecond, rest) ← fraction? t
    return { parts := [], microsecond, rest }
  | n + 1, t => do
    let (part, t) ← fixedNumber? 2 t
    match t with
    | [] => return { parts := [part] }
    | [c] => if c.toNat < 128 then return { parts := [part], rest := [c] } else none
    | c :: u =>
      let colons := colons.getD (c == ':')
      let r ←
        if colons && c == ':' then parts? (some colons) n u
        else if c == '.' || c == ',' then parts? (some colons) 0 u
        else if colons then none
        else parts? (some colons) n (c :: u)
      return { r with parts := part :: r.parts }

/-- Reads a time; the rest is left over. -/
def ofText? (t : Text) : Option (ClockTime × Text) := do
  let r ← parts? none 3 t
  return (⟨r.parts.headD 0, (r.parts.drop 1).headD 0, (r.parts.drop 2).headD 0, r.microsecond⟩,
    r.rest)

/-- The whole minutes of a time. -/
def minutes (c : ClockTime) : Nat := c.hour * 60 + c.minute

/-- Whether a time is less than a day long. -/
def isWithinDay (c : ClockTime) : Bool := c.minutes * 60 + c.second < 86400

end ClockTime

namespace Moment

/-- Whether there is nothing but what stands behind a zero character. -/
def isOver : Text → Bool
  | [] => true
  | c :: _ => c.toNat == 0

/-- Whether a character starts the time zone. -/
def startsZone (c : Char) : Bool := c == '+' || c == '-' || c == 'Z'

/-- How many minutes a time zone is ahead of universal time. -/
def zone? : Text → Option Int
  | 'Z' :: t => if isOver t then some 0 else none
  | c :: t => do
    let (zone, rest) ← ClockTime.ofText? t
    if isOver rest && zone.isWithinDay then
      some (if c == '-' then -zone.minutes else zone.minutes)
    else none
  | [] => none

/-- Reads a time with the time zone that it may have. -/
def timeOfText? (t : Text) : Option (ClockTime × Option Int) := do
  let (time, rest) ← ClockTime.ofText? (t.takeWhile fun c => !startsZone c)
  match t.dropWhile fun c => !startsZone c with
  | [] => if isOver rest then return (time, none) else none
  | zone => return (time, some (← zone? zone))

/-- Reads a moment. Without a time it is the start of the day. -/
def ofText? (t : Text) : Option Moment := do
  let n := Date.lengthIn t
  let date ← Date.ofText? (t.take n)
  match t.drop n with
  | [] => return { date, hour := 0, minute := 0, second := 0 }
  | _ :: time =>
    let (c, offset) ← timeOfText? time
    let m : Moment := ⟨date, c.hour, c.minute, c.second, c.microsecond, offset⟩
    if m.exists? then some m else none

end Moment

end TestSkeleton
