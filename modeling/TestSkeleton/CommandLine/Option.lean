import TestSkeleton.Text.Likeness

set_option autoImplicit false

/-! # Options on a command line

Options have long names behind two dashes; some take a value, which is the next argument or stands
behind an equals sign. A flag takes no value and may have a letter as a short name; several letters
can stand behind one dash. Two dashes alone end the options.
-/

namespace TestSkeleton

open Text

/-- An option of a command. -/
structure CommandOption where
  /-- The long name with its dashes. -/
  name : Text
  /-- The short name of a flag. -/
  letter : Option Char := none
  takesValue : Bool
deriving DecidableEq, Repr

/-- Why arguments cannot be read. -/
inductive OptionError where
  /-- There is no option of this name, but there are some with similar ones. -/
  | unknown (name : Text) (similar : List Text)
  | missingValue (name : Text)
  | unwantedValue (name : Text)
deriving DecidableEq, Repr

/-- The options and the other arguments of a command, in the order in which they are given. A flag
has an empty value. -/
structure GivenArguments where
  options : List (Text × Text) := []
  arguments : List Text := []
deriving DecidableEq, Repr

namespace GivenArguments

/-- These arguments behind one more option. -/
def withOption (g : GivenArguments) (name value : Text) : GivenArguments :=
  { g with options := (name, value) :: g.options }

/-- These arguments behind one more argument that is not an option. -/
def withArgument (g : GivenArguments) (argument : Text) : GivenArguments :=
  { g with arguments := argument :: g.arguments }

/-- Whether an option is given. -/
def has (g : GivenArguments) (name : Text) : Bool := g.options.any fun o => o.1 == name

/-- The value of an option; of several, the last. -/
def value? (g : GivenArguments) (name : Text) : Option Text := g.options.reverse.lookup name

/-- The names of the options that are given, each where it is given first. -/
def names (g : GivenArguments) : List Text := (g.options.map Prod.fst).eraseDups

end GivenArguments

namespace CommandOption

/-- The flags whose letters stand behind one dash. -/
def flags (options : List CommandOption) : Text → Except OptionError (List Text)
  | [] => .ok []
  | c :: cs =>
    match options.find? fun o => o.letter == some c with
    | some o => (flags options cs).map (o.name :: ·)
    | none => .error (.unknown ['-', c] [])

/-- A long option as it is written: its name, and the value behind an equals sign. -/
def splitValue (argument : Text) : Text × Option Text :=
  match cut? '=' argument with
  | some (name, value) => (name, some value)
  | none => (argument, none)

/-- Reads arguments. `awaited` is the name of an option whose value comes next. If options and other
arguments are not mixed, the first other argument ends the options. -/
def read (options : List CommandOption) (mixed : Bool) :
    Option Text → List Text → Except OptionError GivenArguments
  | some name, [] => .error (.missingValue name)
  | some name, value :: rest => (read options mixed none rest).map (·.withOption name value)
  | none, [] => .ok {}
  | none, argument :: rest =>
    match argument with
    | ['-', '-'] => .ok { arguments := rest }
    | '-' :: '-' :: _ =>
      let (name, value?) := splitValue argument
      match options.find? fun o => o.name == name with
      | none => .error (.unknown name (mostLike (options.map CommandOption.name) name))
      | some o =>
        match o.takesValue, value? with
        | true, none => read options mixed (some o.name) rest
        | true, some value => (read options mixed none rest).map (·.withOption o.name value)
        | false, none => (read options mixed none rest).map (·.withOption o.name [])
        | false, some _ => .error (.unwantedValue o.name)
    | '-' :: c :: cs => do
      let names ← flags options (c :: cs)
      (read options mixed none rest).map fun g => names.foldr (fun n g => g.withOption n []) g
    | _ =>
      if mixed then (read options mixed none rest).map (·.withArgument argument)
      else .ok { arguments := argument :: rest }

end CommandOption

end TestSkeleton
