import TestSkeleton.Text.Basic

set_option autoImplicit false

/-! # Paths of files

A path is a list of names, perhaps behind a root. Reading one drops empty names and `.`, so that
`./a//b` is the path `a/b`, and keeps `..`, whose meaning depends on the files.
-/

namespace TestSkeleton

open Text

/-- A path of names. -/
structure FilePath where
  /-- Empty for a path from the current directory, else one or two slashes. -/
  root : Text := []
  names : List Text
deriving DecidableEq, Repr

namespace FilePath

/-- The root that a path is written with. Three slashes and more are the same as one. -/
def rootOf : Text → Text
  | '/' :: '/' :: '/' :: _ => ['/']
  | '/' :: '/' :: _ => ['/', '/']
  | '/' :: _ => ['/']
  | _ => []

/-- Reads a path. -/
def ofText (t : Text) : FilePath :=
  ⟨rootOf t, (splitOn '/' t).filter fun n => !(n.isEmpty || n == ['.'])⟩

/-- The path as a text; a single point stands for the empty path. -/
def toText (p : FilePath) : Text :=
  if p.root.isEmpty && p.names.isEmpty then ['.'] else p.root ++ joinWith ['/'] p.names

/-- Whether the path starts at the root. -/
def isAbsolute (p : FilePath) : Bool := !p.root.isEmpty

/-- The path without its last name. -/
def parent (p : FilePath) : FilePath := { p with names := p.names.dropLast }

/-- The last name of the path, empty if there is none. -/
def name (p : FilePath) : Text := p.names.getLast?.getD []

/-- The second path seen from the first, which plays no part if the second starts at the root. -/
def join (p q : FilePath) : FilePath := if q.isAbsolute then q else ⟨p.root, p.names ++ q.names⟩

/-- The last name cut before its last point, unless the point is at one of its ends. -/
def cutName (p : FilePath) : Text × Text :=
  match cutLast? '.' p.name with
  | some (stem@(_ :: _), extension@(_ :: _)) => (stem, '.' :: extension)
  | _ => (p.name, [])

/-- The last name without its extension. -/
def stem (p : FilePath) : Text := p.cutName.1

/-- The names behind those of `base`, with each `..` taking back the name before it. -/
def climb (base : List Text) (names : List Text) : List Text :=
  names.foldl (fun ns n => if n == ['.', '.'] then ns.dropLast else ns ++ [n]) base

/-- The path from the root, without `..`, if relative paths start at the directory `base`. No link is
looked at. -/
def resolve (base : List Text) (p : FilePath) : FilePath :=
  ⟨['/'], climb (if p.isAbsolute then [] else base) p.names⟩

end FilePath

end TestSkeleton
