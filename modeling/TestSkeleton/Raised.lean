import TestSkeleton.Text.Basic

set_option autoImplicit false

/-! # Exceptions from outside

The program carries out code of others: the modules that classes are loaded from, and the templates.
Such code can raise any exception, of which only so much is told apart as makes a difference to the
program and to those who call it.
-/

namespace TestSkeleton

open Text

/-- The kinds of errors that the program raises and tells of itself. -/
inductive OwnError where
  /-- The fields of a description are not valid, each at a place and for a reason. -/
  | validation (errors : List (Text × Text))
  | loading
  | tag
  | template
deriving DecidableEq, Repr

/-- An exception that code of others lets through to the program. -/
inductive Raised where
  /-- One of the program's own errors. -/
  | own (e : OwnError) (message : Text)
  /-- An exception of this class by which a run ends in good order, with a status and with a text on
  the standard error stream. -/
  | ending (className : Text) (status : Nat) (message : Text)
  /-- Another exception, of this class. -/
  | other (className : Text)
  /-- It is not known here what the code does. -/
  | unknown
deriving DecidableEq, Repr

namespace Raised

/-- The class of the exception. -/
def className : Raised → Text
  | own (.validation _) _ => "MetadataValidationError"
  | own .loading _ => "MetadataError"
  | own .tag _ => "AnnotationError"
  | own .template _ => "RenderError"
  | ending c _ _ | other c => c
  | unknown => []

/-- A request to end the program with this text. -/
def exit (text : Text) : Raised := .ending "SystemExit" 1 (text ++ ['\n'])

/-- An interruption from the keyboard, of which the command line says that the run is aborted. -/
def interrupt (className : Text) : Raised := .ending className 1 "\nAborted!\n"

end Raised

end TestSkeleton
