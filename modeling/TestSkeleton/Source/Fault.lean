import TestSkeleton.Event
import TestSkeleton.Raised
import TestSkeleton.Text.Quoted
import TestSkeleton.Value.Printing

set_option autoImplicit false

/-! # Failures of modules

Why a class cannot be made, and why a statement of a module fails. Each failure is an exception of a
class and has a message.
-/

namespace TestSkeleton

open Text

/-- Why a class cannot be made. -/
inductive ClassFault where
  /-- No class can be derived from this one. -/
  | finalBase (name : Text)
  /-- The objects of the bases have different forms. -/
  | layoutConflict
  /-- What should name the members of objects has no members itself. -/
  | slotsNotIterable (typeName : Text)
  /-- What should be the name of a member is no text. -/
  | slotNotText (typeName : Text)
  /-- What should be the name of a member is no name. -/
  | slotNotName
  /-- The objects of this base have a size of their own and can have no more members. -/
  | sizedBase (name : Text)
  | secondDictionary
  | secondWeakReference
  /-- A member of objects is an attribute of the class too. -/
  | slotConflict (name : Text)
  | qualifiedNameNotText (typeName : Text)
  /-- What should refer to the class itself is of the class with this title. -/
  | wrongCell (title : Text)
  | repeatedBase (name : Text)
  /-- The ancestors cannot be brought in order because of these bases. -/
  | noOrder (names : List Text)
  /-- The order that the maker of the class asks for is empty. -/
  | emptyOrder
  /-- The order that the maker of the class asks for has something in it that is no class. -/
  | orderNotClass (typeName : Text)
  /-- The order that the maker of the class asks for has a class in it whose objects have another
  form. -/
  | orderLayout (name : Text)
deriving DecidableEq, Repr

namespace ClassFault

/-- The message of the failure. -/
def message : ClassFault → Text
  | finalBase name => "type '" ++ name ++ "' is not an acceptable base type"
  | layoutConflict => "multiple bases have instance lay-out conflict"
  | slotsNotIterable typeName => '\'' :: typeName ++ "' object is not iterable".toList
  | slotNotText typeName => "__slots__ items must be strings, not '" ++ typeName ++ ['\'']
  | slotNotName => "__slots__ must be identifiers"
  | sizedBase name => "nonempty __slots__ not supported for subtype of '" ++ name ++ ['\'']
  | secondDictionary => "__dict__ slot disallowed: we already got one"
  | secondWeakReference =>
    "__weakref__ slot disallowed: either we already got one, or __itemsize__ != 0"
  | slotConflict name => name.quoted ++ " in __slots__ conflicts with class variable".toList
  | qualifiedNameNotText typeName => "type __qualname__ must be a str, not " ++ typeName
  | wrongCell title => "__classcell__ must be a nonlocal cell, not " ++ Value.classText title
  | repeatedBase name => "duplicate base class " ++ name
  | noOrder names =>
    "Cannot create a consistent method resolution\norder (MRO) for bases " ++ joinWith ", " names
  | emptyOrder => "type MRO must not be empty"
  | orderNotClass typeName => "mro() returned a non-class ('" ++ typeName ++ "')"
  | orderLayout name => "mro() returned base with unsuitable layout ('" ++ name ++ "')"

/-- Whether a value is wrong, and not its type. -/
def isAboutValue : ClassFault → Bool
  | slotConflict _ => true
  | _ => false

end ClassFault

/-- Why a statement fails. -/
inductive Fault where
  | undefinedName (name : Text)
  | noAttribute (typeName name : Text)
  | noClassAttribute (className name : Text)
  | noModuleAttribute (module name : Text)
  /-- The class does not keep count of what is abstract in it. -/
  | noAbstractNames
  /-- A property that nothing reads was asked for, under this name if it has one. -/
  | unreadable (name typeName : Text)
  /-- An attribute is computed by this class and cannot be set. -/
  | unwritable (name typeName : Text)
  | readOnly (name typeName : Text)
  | immutableClass (name className : Text)
  | notCallable (typeName : Text)
  /-- The text of the module is not well formed. -/
  | malformed (reason : Text)
  /-- A built-in function or class refuses its arguments, for a reason in words. -/
  | refused (reason : Text)
  /-- It refuses an argument that is of the right type. -/
  | badValue (reason : Text)
  /-- The bases are instances of classes that do not fit together. -/
  | metaclassConflict
  | classFault (f : ClassFault)
  | noModule (name : Text)
  /-- The module around a module is known and holds no others. -/
  | notPackage (name parent : Text)
  | notAnException
  /-- An exception of a class with a message, and whether it says that a module cannot be had. -/
  | raised (className : Text) (isAboutModule : Bool) (message : Text)
  /-- An exception whose message cannot be found. -/
  | unspeakable
  /-- An exception that is not meant to be caught. -/
  | ending (e : Raised)
  /-- The statement does what is not known here: it carries out the text of a program, opens a file,
  calls a part of a module of which only the name is known, or reads what is known by its class
  alone. -/
  | unknown
deriving DecidableEq, Repr

namespace Fault

/-- The failure to find a module that is not there. -/
def noModuleText (name : Text) : Text := "No module named " ++ name.quoted

/-- The message of the failure. -/
def message : Fault → Text
  | undefinedName name => "name '" ++ name ++ "' is not defined"
  | noAttribute typeName name =>
    '\'' :: typeName ++ "' object has no attribute '".toList ++ name ++ ['\'']
  | noClassAttribute className name =>
    "type object '" ++ className ++ "' has no attribute '" ++ name ++ ['\'']
  | noModuleAttribute module name =>
    "module '" ++ module ++ "' has no attribute '" ++ name ++ ['\'']
  | noAbstractNames => "__abstractmethods__"
  | unreadable name typeName =>
    "property '" ++ name ++ "' of '" ++ typeName ++ "' object has no getter"
  | unwritable name typeName =>
    "attribute '" ++ name ++ "' of '" ++ typeName ++ "' objects is not writable"
  | readOnly name typeName =>
    '\'' :: typeName ++ "' object attribute '".toList ++ name ++ "' is read-only".toList
  | immutableClass name className =>
    "cannot set '" ++ name ++ "' attribute of immutable type '" ++ className ++ ['\'']
  | notCallable typeName => '\'' :: typeName ++ "' object is not callable".toList
  | malformed reason | refused reason | badValue reason => reason
  | metaclassConflict =>
    ("metaclass conflict: the metaclass of a derived class must be a (non-strict) subclass of the "
      ++ "metaclasses of all its bases").toList
  | classFault f => f.message
  | noModule name => noModuleText name
  | notPackage name parent => noModuleText name ++ "; " ++ parent.quoted ++ " is not a package"
  | notAnException => "exceptions must derive from BaseException"
  | raised _ _ message => message
  | unspeakable | ending _ | unknown => []

/-- The class of the exception. -/
def className : Fault → Text
  | undefinedName _ => "NameError"
  | noAttribute .. | noClassAttribute .. | noModuleAttribute .. | noAbstractNames
  | unreadable .. | unwritable .. | readOnly .. => "AttributeError"
  | noModule _ | notPackage .. => "ModuleNotFoundError"
  | malformed _ => "SyntaxError"
  | badValue _ => "ValueError"
  | raised c _ _ => c
  | ending e => e.className
  | unknown => Raised.unknown.className
  | classFault f => if f.isAboutValue then "ValueError" else "TypeError"
  | _ => "TypeError"

/-- The exception, as it comes out of a module. -/
def escaping : Fault → Raised
  | ending e => e
  | unknown => .unknown
  | f => .other f.className

/-- Whether the exception says that a module cannot be had. -/
def isAboutModule : Fault → Bool
  | noModule _ | notPackage .. => true
  | raised _ about _ => about
  | _ => false

/-- Whether the failure is about an attribute that is not there or cannot be set. -/
def isAboutAttribute : Fault → Bool
  | noAttribute .. | noClassAttribute .. | noModuleAttribute .. | noAbstractNames
  | unreadable .. | unwritable .. | readOnly .. => true
  | _ => false

end Fault

/-- A result or a failure. -/
abbrev Attempt := Except Fault

/-- A result or a failure of code that is carried out, with the texts that it has written. -/
abbrev Action := Logged Fault

end TestSkeleton
