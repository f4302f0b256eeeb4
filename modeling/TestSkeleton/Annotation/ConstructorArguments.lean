import TestSkeleton.Annotation.Line

set_option autoImplicit false

/-! # Constructor arguments

The doc comment of a class may say how an instance is made: `@assert (10, 'x')`. The arguments run
from the opening parenthesis to the last closing one before the line feed, so that a call among the
arguments is kept whole. Unlike the tags of methods, they are looked for in the doc comment as it is
written.
-/

namespace TestSkeleton.Annotation

open Text

/-- The text before the last closing parenthesis, if there is one. -/
def beforeLastClosing? (t : Text) : Option Text := (cutLast? ')' t).map Prod.fst

/-- Reads `@assert`, blanks, and arguments in parentheses at the start of a text. -/
def argumentsAt? (t : Text) : Option Text :=
  match dropPrefix? keyword t with
  | none => none
  | some u =>
    let v := u.dropWhile fun c => c == ' ' || c == '\t'
    if v.length == u.length then none
    else
      match v with
      | '(' :: w => beforeLastClosing? (w.takeWhile (· != '\n'))
      | _ => none

/-- The arguments at the first place of the text where they can be read. -/
def findArguments? : Text → Option Text
  | [] => none
  | c :: t => (argumentsAt? (c :: t)).orElse fun _ => findArguments? t

/-- The constructor arguments that the doc comment of a class gives, empty if it gives none. -/
def constructorArguments (doc : Text) : Text := (findArguments? doc).getD []

end TestSkeleton.Annotation
