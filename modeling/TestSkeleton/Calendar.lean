import TestSkeleton.Text.Basic

set_option autoImplicit false

/-! # Dates and times

Days of the Gregorian calendar from the year 1 to the year 9999, and moments on them, which may
carry the offset of their time zone.
-/

namespace TestSkeleton

/-- A day of the calendar. -/
structure Date where
  year : Nat
  month : Nat
  day : Nat
deriving DecidableEq, Repr

namespace Date

/-- Whether a year has a 29th of February. -/
def isLeap (year : Nat) : Bool := (year % 4 == 0 && year % 100 != 0) || year % 400 == 0

/-- The count of days in a month. -/
def daysInMonth (year month : Nat) : Nat :=
  match month with
  | 2 => if isLeap year then 29 else 28
  | 4 | 6 | 9 | 11 => 30
  | _ => 31

/-- Whether the calendar has this day. -/
def exists? (d : Date) : Bool :=
  1 ≤ d.year && d.year ≤ 9999 && 1 ≤ d.month && d.month ≤ 12 && 1 ≤ d.day
    && d.day ≤ daysInMonth d.year d.month

/-- The count of days before a year, from the year 1 on. -/
def daysBeforeYear (year : Nat) : Nat :=
  let y := year - 1
  y * 365 + y / 4 - y / 100 + y / 400

/-- The count of days of a year before a month. -/
def daysBeforeMonth (year month : Nat) : Nat :=
  (List.range (month - 1)).foldl (fun n m => n + daysInMonth year (m + 1)) 0

/-- The number of a day, counted from the first day of the year 1, which is 1. -/
def ordinal (d : Date) : Nat := daysBeforeYear d.year + daysBeforeMonth d.year d.month + d.day

/-- The day of a year with this number among all days, if it is in the year. -/
def ofOrdinal? (year n : Nat) : Option Date :=
  [1, 2, 3, 4, 5, 6, 7, 8, 9, 10, 11, 12].findSome? fun month =>
    let before := daysBeforeYear year + daysBeforeMonth year month
    if before < n && n ≤ before + daysInMonth year month then some ⟨year, month, n - before⟩
    else none

/-- The number of the Monday of the first week of a year, which is the week that has most of its
days in the year. -/
def firstMonday (year : Nat) : Nat :=
  let first := daysBeforeYear year + 1
  let weekday := (first + 6) % 7
  first - weekday + if 3 < weekday then 7 else 0

/-- The day of a week with this number, from Monday on. The first and the last days of the weeks of
a year may belong to other years. -/
def ofWeek? (year week weekday : Nat) : Option Date :=
  let n := firstMonday year + (week - 1) * 7 + (weekday - 1)
  if 1 ≤ year && 1 ≤ week && 1 ≤ weekday && weekday ≤ 7 &&
      firstMonday year + (week - 1) * 7 < firstMonday (year + 1)
  then ([year, year + 1, year - 1].findSome? fun y => ofOrdinal? y n).filter exists?
  else none

/-- Year, month and day with hyphens between them; the year has at least `yearWidth` digits. -/
def hyphenated (yearWidth : Nat) (d : Date) : Text :=
  Text.padded yearWidth d.year ++ '-' :: Text.padded 2 d.month ++ '-' :: Text.padded 2 d.day

end Date

/-- A moment of a day. -/
structure Moment where
  date : Date
  hour : Nat
  minute : Nat
  second : Nat
  microsecond : Nat := 0
  /-- How many minutes the time zone is ahead of universal time, if it is known. -/
  offset : Option Int := none
deriving DecidableEq, Repr

namespace Moment

/-- Whether the calendar has this moment. An offset is less than a day. -/
def exists? (m : Moment) : Bool :=
  m.date.exists? && m.hour < 24 && m.minute < 60 && m.second < 60 && m.microsecond < 1000000
    && m.offset.all fun o => -1440 < o && o < 1440

/-- The count of microseconds of universal time up to the moment, if the time zone is known. -/
def universal? (m : Moment) : Option Int :=
  m.offset.map fun o =>
    (((m.date.ordinal * 24 + m.hour : Int) * 60 + m.minute - o) * 60 + m.second) * 1000000
      + m.microsecond

/-- Whether two moments are the same. With time zones they are if they are so in universal time; no
moment with a time zone is the same as one without. -/
def isSame (m n : Moment) : Bool :=
  match m.universal?, n.universal? with
  | some i, some j => i == j
  | none, none => m == n
  | _, _ => false

/-- Hours, minutes and seconds with colons between them. -/
def clock (m : Moment) : Text :=
  Text.padded 2 m.hour ++ ':' :: Text.padded 2 m.minute ++ ':' :: Text.padded 2 m.second

end Moment

end TestSkeleton
