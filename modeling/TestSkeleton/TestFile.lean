import TestSkeleton.Text.Case
import TestSkeleton.Text.Encoding
import TestSkeleton.File.System

set_option autoImplicit false

/-! # Files of generated tests

Unless told otherwise, tests are written to a directory of their own beside the source of the class,
into a file named for the class in snake case.
-/

namespace TestSkeleton.TestFile

open Text

/-- Puts an underscore between a lower-case ASCII letter or digit and an upper-case ASCII letter. -/
def separateWords : Text → Text
  | c :: d :: t =>
    if (isAsciiLower c || isAsciiDigit c) && isAsciiUpper d then c :: '_' :: separateWords (d :: t)
    else c :: separateWords (d :: t)
  | t => t

/-- The name of a class in snake case. -/
def snakeCase (name : Text) : Text :=
  (lower (separateWords name)).map fun c => if c == ' ' || c == '-' then '_' else c

/-- The directory for tests beside a source file. -/
def directoryName : Text := ".~unit-tests"

/-- The directory that the tests of a class go to a directory of: that of the source file, without
links, or the current one if the source file is not known. -/
def baseDirectory (fs : FileSystem) : Option FilePath → Except FileSystem.Failure FilePath
  | some p => (fs.resolve p).map FilePath.parent
  | none => .ok ⟨['/'], fs.current⟩

/-- The path where the tests of a class are written, in a directory of the directory `base`. -/
def defaultPath (base : FilePath) (className : Text) : FilePath :=
  (base.join ⟨[], [directoryName]⟩).join (.ofText ("test_" ++ snakeCase className ++ ".py"))

/-- The same for a source file, if its path can be followed. -/
def defaultPath? (fs : FileSystem) (className : Text) (source : Option FilePath) :
    Except FileSystem.Failure FilePath :=
  (baseDirectory fs source).map fun base => defaultPath base className

/-- Writes a text to a file and makes the missing directories above it. -/
def write (path : FilePath) (text : Text) (fs : FileSystem) :
    Except FileSystem.Failure Unit × FileSystem :=
  fs.writeWithParents path (encode text)

end TestSkeleton.TestFile
