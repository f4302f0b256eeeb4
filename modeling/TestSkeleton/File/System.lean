import TestSkeleton.File.Path
import TestSkeleton.Text.Quoted

set_option autoImplicit false

/-! # Files, directories and links

The state of a file system as a value, and the operations on it that the program needs. An operation
takes the text of a path and walks it name by name from the root or from the current directory; it
either fails for one of a few causes or yields its answer or the new state. A walk that comes to a
symbolic link goes on where the link leads to, and a further name of a file leads to the file.
-/

namespace TestSkeleton

/-- The names that lead from the root to a place. -/
abbrev Location := List Text

/-- What is at a place. -/
inductive Entry where
  | directory
  | file (bytes : List UInt8)
  /-- A symbolic link with the path that it holds. -/
  | link (target : Text)
  /-- A further name of the file at a place. -/
  | another (place : Location)
deriving DecidableEq, Repr

/-- Why an operation on files failed. -/
inductive FileFault where
  | notFound
  | alreadyExists
  | notDirectory
  | isDirectory
  | nameTooLong
  | tooManyLinks
  /-- A link leads back to itself. -/
  | linkCircle
  /-- The path holds a character with the code zero, which ends a path where files are kept. -/
  | zeroCharacter
deriving DecidableEq, Repr

namespace FileFault

/-- The number of the fault, if it has one. -/
def number? : FileFault → Option Nat
  | notFound => some 2
  | alreadyExists => some 17
  | notDirectory => some 20
  | isDirectory => some 21
  | nameTooLong => some 36
  | tooManyLinks => some 40
  | linkCircle | zeroCharacter => none

/-- The fault in words. -/
def description : FileFault → Text
  | notFound => "No such file or directory"
  | alreadyExists => "File exists"
  | notDirectory => "Not a directory"
  | isDirectory => "Is a directory"
  | nameTooLong => "File name too long"
  | tooManyLinks => "Too many levels of symbolic links"
  | linkCircle => "Symlink loop"
  | zeroCharacter => "embedded null byte"

end FileFault

/-- Files, directories and links, and the current directory. The root always is a directory. -/
structure FileSystem where
  entries : List (Location × Entry) := []
  current : Location := []
deriving DecidableEq, Repr

namespace FileSystem

open Text

/-- What is at a place. -/
def entry? (fs : FileSystem) (l : Location) : Option Entry :=
  if l.isEmpty then some .directory else fs.entries.lookup l

/-- The file system with an entry put at a place. -/
def put (fs : FileSystem) (l : Location) (e : Entry) : FileSystem :=
  { fs with entries := (l, e) :: fs.entries.filter fun x => x.1 != l }

/-! ## Walks -/

/-- Goes on from a place to a name in it, which need not exist. -/
def step (fs : FileSystem) (l : Location) (name : Text) : Except FileFault Location :=
  match fs.entry? l with
  | none => .error .notFound
  | some .directory =>
    if name == ['.'] then .ok l
    else if name == ['.', '.'] then .ok l.dropLast
    else if 255 < name.asString.utf8ByteSize then .error .nameTooLong
    else .ok (l ++ [name])
  | some _ => .error .notDirectory

/-- The names of a path to walk. A slash at its end asks for a directory, as a point does. -/
def namesToWalk (path : Text) : List Text :=
  let names := splitOn '/' path
  names.filter (!·.isEmpty) ++ if names.getLast? == some [] then [['.']] else []

/-- Where a walk has come to. -/
structure Walker where
  place : Location
  /-- How many links the walk may still follow. -/
  links : Nat
deriving DecidableEq, Repr

/-- Where a path starts that is met at a place. -/
def startOf (path : Text) (l : Location) : Location := if startsWith ['/'] path then [] else l

/-- Goes on to a name, and on to where it leads if it is that of a link. -/
def pass (fs : FileSystem) (follow : Walker → List Text → Except FileFault Walker) (w : Walker)
    (name : Text) : Except FileFault Walker := do
  let l ← fs.step w.place name
  match fs.entry? l with
  | some (.link target) =>
    match w.links with
    | 0 => .error .tooManyLinks
    | n + 1 => follow ⟨startOf target w.place, n⟩ (namesToWalk target)
  | some (.another m) => .ok { w with place := m }
  | _ => .ok { w with place := l }

/-- Goes through names one after the other, where links can be inside of links up to a depth. -/
def walk (fs : FileSystem) : Nat → Walker → List Text → Except FileFault Walker
  | 0, _, _ => .error .tooManyLinks
  | depth + 1, w, names => names.foldlM (fs.pass (fs.walk depth)) w

/-- The number of links that a walk follows at most. -/
def linkLimit : Nat := 40

/-- Goes through names from a place on. A link inside of others is one more to follow, so there is
always depth enough for those that may be followed. -/
def walkFrom (fs : FileSystem) (l : Location) (names : List Text) : Except FileFault Location :=
  (fs.walk (linkLimit + 1) ⟨l, linkLimit⟩ names).map Walker.place

/-- The number of bytes that a path stays below. -/
def pathLimit : Nat := 4096

/-- Whether a path holds a character with the code zero. -/
def holdsZero (path : Text) : Bool := path.contains '\x00'

/-- Fails for a path that is no path. -/
def checkPath (path : Text) : Except FileFault Unit :=
  if holdsZero path then .error .zeroCharacter
  else if path.isEmpty then .error .notFound
  else if pathLimit ≤ path.asString.utf8ByteSize then .error .nameTooLong
  else .ok ()

/-- The place that a path leads to, which need not exist, but all before it have to. -/
def locate (fs : FileSystem) (path : Text) : Except FileFault Location := do
  checkPath path
  fs.walkFrom (startOf path fs.current) (namesToWalk path)

/-- The place of a path itself: a link at its end is not followed. -/
def locateName (fs : FileSystem) (path : Text) : Except FileFault Location := do
  checkPath path
  let names := namesToWalk path
  let l ← fs.walkFrom (startOf path fs.current) names.dropLast
  fs.step l (names.getLast?.getD ['.'])

/-- What a path leads to. -/
def look (fs : FileSystem) (path : Text) : Except FileFault Entry := do
  match fs.entry? (← fs.locate path) with
  | some .directory => .ok .directory
  | some (.file bytes) => .ok (.file bytes)
  | _ => .error .notFound

/-- Whether a path leads to anything. -/
def pathExists (fs : FileSystem) (path : Text) : Bool := (fs.look path).toOption.isSome

/-- Whether a path leads to a directory. -/
def isDirectory (fs : FileSystem) (path : Text) : Bool :=
  (fs.look path).toOption == some .directory

/-- Whether a path leads to a file. -/
def isFile (fs : FileSystem) (path : Text) : Bool :=
  match fs.look path with
  | .ok (.file _) => true
  | _ => false

/-- The bytes of a file. -/
def read (fs : FileSystem) (path : Text) : Except FileFault (List UInt8) := do
  match ← fs.look path with
  | .file bytes => .ok bytes
  | _ => .error .isDirectory

/-- Writes a file, in place of the file that is there. -/
def write (fs : FileSystem) (path : Text) (bytes : List UInt8) : Except FileFault FileSystem := do
  let l ← fs.locate path
  match fs.entry? l with
  | none | some (.file _) => .ok (fs.put l (.file bytes))
  | some .directory => .error .isDirectory
  | some _ => .error .notFound

/-- Makes a directory in one that exists. A link in its place is in the way, wherever it leads. -/
def makeDirectory (fs : FileSystem) (path : Text) : Except FileFault FileSystem := do
  let l ← fs.locateName path
  match fs.entry? l with
  | some _ => .error .alreadyExists
  | none => .ok (fs.put l .directory)

/-- A fault and the path whose use met it. -/
structure Failure where
  fault : FileFault
  path : Text
deriving DecidableEq, Repr

/-- The message of the failure. -/
def Failure.message (f : Failure) : Text :=
  match f.fault.number? with
  | some n => "[Errno " ++ ofNat n ++ "] " ++ f.fault.description ++ ": " ++ quoted f.path
  | none => f.fault.description

/-- Makes a directory and the missing ones above it, if there is no directory yet. `fuel` bounds how
many directories above it are looked at; the directories made before a failure stay. -/
def makeDirectories (path : FilePath) : Nat → FileSystem → Except Failure Unit × FileSystem
  | fuel, fs =>
    match fs.makeDirectory path.toText with
    | .ok fs' => (.ok (), fs')
    | .error .notFound =>
      match fuel with
      | 0 => (.error ⟨.notFound, path.toText⟩, fs)
      | fuel + 1 =>
        match makeDirectories path.parent fuel fs with
        | (.ok (), fs') =>
          match fs'.makeDirectory path.toText with
          | .ok fs'' => (.ok (), fs'')
          | .error f =>
            if fs'.isDirectory path.toText then (.ok (), fs') else (.error ⟨f, path.toText⟩, fs')
        | failed => failed
    | .error f =>
      if fs.isDirectory path.toText then (.ok (), fs) else (.error ⟨f, path.toText⟩, fs)

/-- Writes a file and makes the missing directories above it. -/
def writeWithParents (path : FilePath) (bytes : List UInt8) (fs : FileSystem) :
    Except Failure Unit × FileSystem :=
  match makeDirectories path.parent path.names.length fs with
  | (.ok (), fs') =>
    match fs'.write path.toText bytes with
    | .ok fs'' => (.ok (), fs'')
    | .error f => (.error ⟨f, path.toText⟩, fs')
  | failed => failed

/-! ## Resolved paths -/

/-- Goes through names that need not exist, with each `..` taking back the place before it. `inside`
are the links that are being followed. One of them leads back to itself if it is met again: then the
walk stops there, and the names that are left go behind it as they are. -/
def resolveNames (fs : FileSystem)
    (follow : List Location → Location → List Text → Except Location Location)
    (inside : List Location) : Location → List Text → Except Location Location
  | l, [] => .ok l
  | l, name :: names =>
    if name == ['.', '.'] then resolveNames fs follow inside l.dropLast names
    else
      let here := l ++ [name]
      match fs.entry? here with
      | some (.link target) =>
        if inside.contains here then .error (FilePath.climb here names)
        else
          match follow (here :: inside) (startOf target l) (FilePath.ofText target).names with
          | .ok m => resolveNames fs follow inside m names
          | .error m => .error (FilePath.climb m names)
      | _ => resolveNames fs follow inside here names

/-- The same, where links can be inside of links up to a depth. -/
def resolveWithin (fs : FileSystem) :
    Nat → List Location → Location → List Text → Except Location Location
  | 0, _, l, names => .error (FilePath.climb l names)
  | depth + 1, inside, l, names => fs.resolveNames (fs.resolveWithin depth) inside l names

/-- The path from the root without links and `..`, which need not exist. There are no more links
inside of each other than there are links. Where a link leads back to itself, the path is only used
if it does not lead through that link any more. -/
def resolve (fs : FileSystem) (p : FilePath) : Except Failure FilePath :=
  if holdsZero p.toText then .error ⟨.zeroCharacter, p.toText⟩
  else
    let start := if p.isAbsolute then [] else fs.current
    match fs.resolveWithin (fs.entries.length + 1) [] start p.names with
    | .ok l => .ok ⟨['/'], l⟩
    | .error l =>
      let path : FilePath := ⟨['/'], l⟩
      match fs.look path.toText with
      | .error .tooManyLinks => .error ⟨.linkCircle, p.toText⟩
      | _ => .ok path

end FileSystem

end TestSkeleton
