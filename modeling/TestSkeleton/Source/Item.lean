import TestSkeleton.Text.Escaped
import TestSkeleton.Value.Printing

set_option autoImplicit false

/-! # Modules as they are written

A module is a sequence of statements, of the kinds that bear on its classes. `SourceModule.toText`
is the text of the module.
-/

namespace TestSkeleton

open Text

/-- A statement of a module or of the body of a class. -/
inductive Item where
  /-- A class. Behind its bases the class can stand that is to make it. -/
  | cls (name : Text) (bases : List Text) (doc : Option Text) (body : List Item)
  /-- A function that takes any arguments, or a method. Decorators stand from top to bottom. -/
  | function (name : Text) (doc : Option Text) (decorators : List Text)
  | lambda (name : Text)
  | value (name : Text) (v : Value)
  /-- A second name for what a dotted name stands for, or a name for a function that lists what names
  stand for. -/
  | rename (name target : Text)
  | comment (text : Text)
  /-- A text that stands by itself. -/
  | text (text : Text)
  /-- Statements that are always carried out. -/
  | block (body : List Item)
  | raise (exception message : Text)
  | load (module : Text)

/-- A module. -/
structure SourceModule where
  doc : Option Text := none
  items : List Item := []

namespace Item

/-- How the name of a base is written: one is a name from the module for abstract classes. -/
def qualifyBase (name : Text) : Text := if name == "ABC".toList then "abc." ++ name else name

/-- What the class that is to make a class stands behind. -/
def makerKeyword : Text := "metaclass="

/-- The bases among what stands in the parentheses of a class. -/
def basesOf (arguments : List Text) : List Text :=
  arguments.filter fun a => !startsWith makerKeyword a

/-- The name of the class that is to make a class. -/
def makerOf? (arguments : List Text) : Option Text :=
  arguments.findSome? (dropPrefix? makerKeyword)

/-- The parameter and the names of a function that lists what the names stand for, if a text is one:
`lambda c: [A, c, object]`. -/
def listing? (t : Text) : Option (Text × List Text) := do
  let rest ← dropPrefix? "lambda " t
  let (parameter, list) := (rest.takeWhile isWordChar, rest.dropWhile isWordChar)
  let names ← dropSuffix? "]" (← dropPrefix? ": [" list)
  let names := (splitOn ',' names).map strip
  if isName parameter && names.all isName then some (parameter, names) else none

/-- How a decorator is written: one is a name from the module for abstract classes. -/
def qualifyDecorator (name : Text) : Text :=
  if name == "abstractmethod".toList then "abc." ++ name else name

/-- A line at a depth of nesting. -/
def line (depth : Nat) (t : Text) : Text := List.replicate (4 * depth) ' ' ++ t ++ ['\n']

/-- The line of a doc comment, if there is one. -/
def docLine (depth : Nat) (doc : Option Text) : Text :=
  match doc with
  | some d => line depth d.quoted
  | none => []

/-- The head of a class. -/
def classHead (name : Text) (bases : List Text) : Text :=
  "class " ++ name
    ++ (if bases.isEmpty then [] else inParentheses (bases.map qualifyBase)) ++ [':']

mutual

/-- The text of a statement. -/
def toText (depth : Nat) : Item → Text
  | cls name bases doc body =>
    line depth (classHead name bases) ++ docLine (depth + 1) doc ++ allToText (depth + 1) body
      ++ line (depth + 1) "pass"
  | function name doc decorators =>
    (decorators.flatMap fun d => line depth ('@' :: qualifyDecorator d))
      ++ line depth ("def " ++ name ++ "(*args):") ++ docLine (depth + 1) doc
      ++ line (depth + 1) "pass"
  | lambda name => line depth (name ++ " = lambda *args: None")
  | value name v => line depth (name ++ " = " ++ v.literal)
  | rename name target => line depth (name ++ " = " ++ target)
  | comment t => line depth ('#' :: ' ' :: t)
  | text t => line depth ("'''" ++ t ++ "'''")
  | block body => line depth "if True:" ++ allToText (depth + 1) body
  | raise exception message => line depth ("raise " ++ exception ++ inParentheses [message.quoted])
  | load module => line depth ("import " ++ module)

/-- The text of statements one after the other. -/
def allToText (depth : Nat) : List Item → Text
  | [] => []
  | i :: is => toText depth i ++ allToText depth is

end

end Item

/-- The text of a module. -/
def SourceModule.toText (m : SourceModule) : Text :=
  Item.docLine 0 m.doc ++ Item.line 0 "import abc" ++ Item.allToText 0 m.items

/-! ## Texts that stand by themselves -/

/-- An escape that stands for nothing, in a text that ends in this line. -/
structure EscapeFault where
  line : Nat
  fault : Text.Escaped.Fault
deriving DecidableEq, Repr

namespace Item

/-- What a text that stands by itself means, if there is no fault in its escapes. -/
def meaning? (t : Text) : Option Text := (Escaped.meaning (normalizeNewlines t)).toOption

/-- The number of line breaks in a text. -/
def breaks (t : Text) : Nat := (normalizeNewlines t).count '\n'

mutual

/-- The first fault in the texts of a statement that starts in this line. -/
def fault? (line : Nat) : Item → Option EscapeFault
  | .text t =>
    match Escaped.meaning (normalizeNewlines t) with
    | .ok _ => none
    | .error fault => some ⟨line + breaks t, fault⟩
  | .cls _ _ doc body => firstFault? (line + 1 + if doc.isSome then 1 else 0) body
  | .block body => firstFault? (line + 1) body
  | _ => none

/-- The first fault in the texts of statements one after the other. -/
def firstFault? (line : Nat) : List Item → Option EscapeFault
  | [] => none
  | i :: is =>
    (fault? line i).orElse fun _ => firstFault? (line + breaks (toText 0 i)) is

end

end Item

/-- The first fault in the texts of a module. The module starts with its doc comment and a line of
its own. -/
def SourceModule.fault? (m : SourceModule) : Option EscapeFault :=
  Item.firstFault? (2 + if m.doc.isSome then 1 else 0) m.items

/-! ## The first class of a text -/

/-- The name in a class statement at the start of a text, behind blank space. -/
def classNameAt? (t : Text) : Option Text := do
  let rest ← dropPrefix? "class" (stripStart t)
  match rest with
  | c :: _ =>
    if isBlank c then
      match stripStart rest with
      | d :: u =>
        if isAsciiLetter d || d == '_' then some (d :: u.takeWhile isWordChar) else none
      | [] => none
    else none
  | [] => none

/-- The name in the first class statement behind a line feed. -/
def classNameBehindLine? : Text → Option Text
  | [] => none
  | c :: t =>
    if c == '\n' then (classNameAt? t).orElse fun _ => classNameBehindLine? t
    else classNameBehindLine? t

/-- The name in the first line of a text that starts like a class statement, whatever the line is
part of. -/
def firstClassName? (t : Text) : Option Text :=
  (classNameAt? t).orElse fun _ => classNameBehindLine? t

end TestSkeleton
