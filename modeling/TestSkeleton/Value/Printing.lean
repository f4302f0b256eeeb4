import TestSkeleton.Value.Basic
import TestSkeleton.Number.Shortest
import TestSkeleton.Text.Quoted

set_option autoImplicit false

/-! # Texts of values

`Value.literal` writes a value as a literal, with texts in quotation marks; `Value.shown` is the
same but for a text, a date or a moment that is not part of another value.
-/

namespace TestSkeleton

/-- The arguments of a call. -/
def Text.inParentheses (args : List Text) : Text := '(' :: joinWith ", " args ++ [')']

/-- A date as a literal. -/
def Date.literal (d : Date) : Text :=
  "datetime.date" ++ Text.inParentheses ([d.year, d.month, d.day].map Text.ofNat)

namespace Moment

/-- The parts of a duration as arguments, in whole days and the seconds beyond them. -/
def durationArguments (minutes : Int) : List Text :=
  let days := minutes.fdiv 1440
  let seconds := minutes.fmod 1440 * 60
  (if days == 0 then [] else ["days=" ++ Text.ofInt days])
    ++ if seconds == 0 then [] else ["seconds=" ++ Text.ofInt seconds]

/-- A time zone as a literal. -/
def zoneLiteral (offset : Int) : Text :=
  if offset == 0 then "datetime.timezone.utc"
  else
    "datetime.timezone"
      ++ Text.inParentheses ["datetime.timedelta" ++ Text.inParentheses (durationArguments offset)]

/-- A moment as a literal. Seconds and microseconds are left out where they and all behind them are
zero. -/
def literal (m : Moment) : Text :=
  let small :=
    if m.microsecond != 0 then [m.second, m.microsecond]
    else if m.second != 0 then [m.second] else []
  let numbers := [m.date.year, m.date.month, m.date.day, m.hour, m.minute] ++ small
  let zone := match m.offset with
    | some o => ["tzinfo=" ++ zoneLiteral o]
    | none => []
  "datetime.datetime" ++ Text.inParentheses (numbers.map Text.ofNat ++ zone)

/-- A moment with its date and its clock, and its fraction of a second and its offset if it has
them. -/
def shown (m : Moment) : Text :=
  let fraction := if m.microsecond == 0 then [] else '.' :: Text.padded 6 m.microsecond
  let zone := match m.offset with
    | some o =>
      (if o < 0 then '-' else '+') :: Text.padded 2 (o.natAbs / 60)
        ++ ':' :: Text.padded 2 (o.natAbs % 60)
    | none => []
  m.date.hyphenated 4 ++ ' ' :: m.clock ++ fraction ++ zone

end Moment

/-- The text of a class with this title. -/
def Value.classText (title : Text) : Text := "<class '" ++ title ++ "'>"

namespace Value

/-- The members of a set in braces. -/
def inBraces (members : List Text) : Text := '{' :: Text.joinWith ", " members ++ ['}']

mutual

/-- The value as a literal. -/
def literal : Value → Text
  | none => "None"
  | bool b => if b then "True" else "False"
  | int n => Text.ofInt n
  | float x => x.toText
  | complex re im => Binary64.complexText re im
  | str t => t.quoted
  | bytes bs => Text.quotedBytes bs
  | list vs => '[' :: Text.joinWith ", " (literals vs) ++ [']']
  | tuple [v] => '(' :: literal v ++ [',', ')']
  | tuple vs => Text.inParentheses (literals vs)
  | set [] => "set()"
  | set vs => inBraces (literals vs)
  | frozenset [] => "frozenset()"
  | frozenset vs => "frozenset(" ++ inBraces (literals vs) ++ [')']
  | dict es => inBraces (entryLiterals es)
  | date d => d.literal
  | moment m => m.literal
  | type _ title => classText title
  | object name _ cls _ => '<' :: cls ++ ' ' :: name ++ ['>']
  | part _ shown => shown

/-- The literals of several values. -/
def literals : List Value → List Text
  | [] => []
  | v :: vs => literal v :: literals vs

/-- The literals of the entries of a mapping. -/
def entryLiterals : List (Value × Value) → List Text
  | [] => []
  | (k, v) :: es => (literal k ++ ':' :: ' ' :: literal v) :: entryLiterals es

end

/-- The value as a text of its own. -/
def shown : Value → Text
  | str t => t
  | date d => d.hyphenated 4
  | moment m => m.shown
  | v => literal v

end Value

end TestSkeleton
