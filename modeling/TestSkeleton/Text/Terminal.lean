import TestSkeleton.Text.Class

set_option autoImplicit false

/-! # Texts for terminals

Programs steer a terminal by control sequences: an escape character, an opening bracket, parameters,
intermediate characters and a final one, all of them visible ASCII characters. What is not written
to a terminal goes without them.
-/

namespace TestSkeleton.Text

/-- The escape character. -/
def escapeChar : Char := '\x1b'

/-- The parameters of a control sequence: digits and signs between digits. -/
def isControlParameter (c : Char) : Bool := '0' ≤ c && c ≤ '?'

/-- The characters between the parameters of a control sequence and its final character. -/
def isControlIntermediate (c : Char) : Bool := ' ' ≤ c && c ≤ '/'

/-- The characters that end a control sequence. -/
def isControlFinal (c : Char) : Bool := '@' ≤ c && c ≤ '~'

/-- What follows the control sequence at the start of a text, behind its bracket. -/
def dropControl? (t : Text) : Option Text :=
  match (t.dropWhile isControlParameter).dropWhile isControlIntermediate with
  | c :: u => if isControlFinal c then some u else none
  | [] => none

/-- The text without control sequences. Each step takes at least a character away from the text, of
which there are `fuel` at most. -/
def withoutControlsSteps : Nat → Text → Text
  | fuel + 1, c :: '[' :: t =>
    if c == escapeChar then
      match dropControl? t with
      | some u => withoutControlsSteps fuel u
      | none => c :: withoutControlsSteps fuel ('[' :: t)
    else c :: withoutControlsSteps fuel ('[' :: t)
  | fuel + 1, c :: t => c :: withoutControlsSteps fuel t
  | _, t => t

/-- The text without control sequences. -/
def withoutControls (t : Text) : Text := withoutControlsSteps t.length t

end TestSkeleton.Text
