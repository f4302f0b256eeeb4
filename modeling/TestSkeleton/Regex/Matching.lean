import TestSkeleton.Regex.Basic

set_option autoImplicit false

/-! # Matching

A match is searched by trying the alternatives of a pattern in order, at the first place of the
text where it matches at all. What follows a pattern is handed down as a continuation, so that an
alternative counts only if the rest matches too.

A repetition that is not among the required ones is not tried again at the place where the one
before it started. So each repetition but the last takes a character, and one more repetition than
the text has characters is as good as any number of them.
-/

namespace TestSkeleton.Regex

/-- A place in a text, and what the groups matched so far. -/
structure Place where
  /-- The characters before the place, the nearest first. -/
  before : Text
  rest : Text
  /-- The newest entry of a group counts. -/
  groups : List (Nat × Text) := []
deriving DecidableEq, Repr

namespace Place

/-- The place behind the next character. -/
def advance? (p : Place) : Option (Char × Place) :=
  match p.rest with
  | [] => none
  | c :: r => some (c, { p with before := c :: p.before, rest := r })

/-- The characters between this place and a later one. -/
def textUntil (p q : Place) : Text := p.rest.take (p.rest.length - q.rest.length)

/-- The place behind a text that starts here. -/
def skip? : Text → Place → Option Place
  | [], p => some p
  | c :: t, p =>
    match p.advance? with
    | some (d, q) => if c == d then skip? t q else none
    | none => none

/-- Whether one of the two characters at the place, but not both, is of a word. -/
def atWordEdge (asciiOnly : Bool) (p : Place) : Bool :=
  let isWord (t : Text) := t.head?.any fun c => NamedClass.word.holds asciiOnly c
  isWord p.before != isWord p.rest

end Place

/-- Whether a condition is met at a place. -/
def Anchor.holds (asciiOnly : Bool) (p : Place) : Anchor → Bool
  | start => p.before.isEmpty
  | ending => p.rest.isEmpty || p.rest == ['\n']
  | lastEnding => p.rest.isEmpty
  | wordEdge => p.atWordEdge asciiOnly
  | noWordEdge => !p.atWordEdge asciiOnly && !(p.before.isEmpty && p.rest.isEmpty)

/-- What remains to be matched behind a pattern. -/
abbrev Continuation := Place → Option Place

/-- Matches a part `n` times. -/
def times (part : Continuation → Place → Option Place) : Nat → Continuation → Place → Option Place
  | 0, next, p => next p
  | n + 1, next, p => part (times part n next) p

/-- Matches a part at most `n` times, as often as possible. `last` is the number of characters
behind the place where the repetition before started. -/
def manyTimes (part : Continuation → Place → Option Place) :
    Nat → Option Nat → Continuation → Place → Option Place
  | 0, _, next, p => next p
  | n + 1, last, next, p =>
    let more :=
      if last == some p.rest.length then none
      else part (manyTimes part n (some p.rest.length) next) p
    more.orElse fun _ => next p

/-- Matches a part at most `n` times, as seldom as possible. -/
def fewTimes (part : Continuation → Place → Option Place) :
    Nat → Option Nat → Continuation → Place → Option Place
  | 0, _, next, p => next p
  | n + 1, last, next, p =>
    (next p).orElse fun _ =>
      if last == some p.rest.length then none
      else part (fewTimes part n (some p.rest.length) next) p

/-- How many repetitions beyond the required ones there can be at a place. -/
def spare (low : Nat) (high : Option Nat) (p : Place) : Nat :=
  let most := p.rest.length + 1
  match high with
  | some h => min (h - low) most
  | none => most

/-- Matches a pattern and then the rest. -/
def run (asciiOnly : Bool) : Regex → Continuation → Place → Option Place
  | empty, next, p => next p
  | character k, next, p =>
    match p.advance? with
    | some (c, q) => if k.holds asciiOnly c then next q else none
    | none => none
  | anchor a, next, p => if a.holds asciiOnly p then next p else none
  | sequence r s, next, p => run asciiOnly r (run asciiOnly s next) p
  | either r s, next, p => (run asciiOnly r next p).orElse fun _ => run asciiOnly s next p
  | repeated r low high greed, next, p =>
    let part := run asciiOnly r
    match greed with
    | .greedy => times part low (fun q => manyTimes part (spare low high q) none next q) p
    | .lazy => times part low (fun q => fewTimes part (spare low high q) none next q) p
    | .possessive =>
      (times part low (fun q => manyTimes part (spare low high q) none some q) p).bind next
  | group n r, next, p =>
    run asciiOnly r (fun q => next { q with groups := (n, p.textUntil q) :: q.groups }) p
  | reference n, next, p =>
    match p.groups.lookup n with
    | some t => (p.skip? t).bind next
    | none => none

/-- The text that a pattern matches at a place or, failing that, at the first place behind it. -/
def searchFrom (asciiOnly : Bool) (r : Regex) (before : Text) : Text → Option Text
  | [] => (run asciiOnly r some ⟨before, [], []⟩).map (Place.textUntil ⟨before, [], []⟩)
  | c :: t =>
    match run asciiOnly r some ⟨before, c :: t, []⟩ with
    | some q => some (Place.textUntil ⟨before, c :: t, []⟩ q)
    | none => searchFrom asciiOnly r (c :: before) t

/-- The first part of a text that a pattern matches. -/
def search (asciiOnly : Bool) (r : Regex) (t : Text) : Option Text := searchFrom asciiOnly r [] t

end TestSkeleton.Regex
