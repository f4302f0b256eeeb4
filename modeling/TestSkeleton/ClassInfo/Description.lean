import TestSkeleton.ClassInfo.Reading
import TestSkeleton.Event
import TestSkeleton.File.System
import TestSkeleton.Yaml.Construction

set_option autoImplicit false

/-! # Class descriptions in documents

A class may be described in a document of its own. Errors say where the document came from.
-/

namespace TestSkeleton

open Text

/-- Failures that reading a description does not foresee. -/
inductive UnforeseenFault where
  /-- A scalar of the document does not have the value that its tag asks for. -/
  | scalar (f : Yaml.Fault)
  /-- The file does not hold a text. -/
  | encoding
  /-- No file can have the path. -/
  | path
  /-- The class in error is a number that is too long to be written, or has one in it. -/
  | longNumber
deriving DecidableEq, Repr

/-- Why a description could not be read. `path` is the file it was read from. -/
inductive DescriptionError where
  | notADocument (path : Option Text)
  | notAMapping (path : Option Text) (typeName : Text)
  /-- The fields in error, and the class as far as the description names it. -/
  | invalidFields (path : Option Text) (cls : Option Value) (errors : List FieldError)
  | unreadableFile (path : Text) (fault : FileFault)
  | unforeseen (f : UnforeseenFault)
  /-- What becomes of the description is not known here: it has half of a character in it. -/
  | unknown

namespace DescriptionError

/-- What a description is called after the file it was read from. -/
def origin : Option Text → Text
  | some path@(_ :: _) => path
  | _ => "YAML text"

/-- What the class of a description is called. -/
def classShown (cls : Option Value) : Text :=
  match cls with
  | some v => if v.isTruthy then v.shown else "<unnamed>"
  | none => "<unnamed>"

/-- The message of the error. -/
def message : DescriptionError → Text
  | notADocument path => "Invalid YAML in " ++ origin path
  | notAMapping path typeName =>
    origin path ++ " should describe a class as a mapping, got " ++ typeName
  | invalidFields path cls errors =>
    "Class `" ++ classShown cls ++ "` in " ++ origin path ++ " has " ++ ofNat errors.length
      ++ " invalid field(s)"
  | unreadableFile path fault =>
    "Cannot read class description " ++ path ++ ": " ++ fault.description
  | unforeseen (.scalar _) => "A scalar does not have the value that its tag asks for"
  | unforeseen .encoding => "The file does not hold a text"
  | unforeseen .path => "No file can have the path"
  | unforeseen .longNumber => "A number is too long to be written"
  | unknown => "An escape stands for half a character"

end DescriptionError

namespace ClassInfo

/-- Reads a description from the text of a document. An empty document is an empty mapping. -/
def ofDocument (text : Text) (path : Option Text) : Logged DescriptionError ClassInfo :=
  match Yaml.Document.ofText? text with
  | .error .malformed => .fail (.notADocument path)
  | .error .halfCharacter => .fail .unknown
  | .error f => .fail (.unforeseen (.scalar f))
  | .ok d =>
    let parts := d.elim #[] (·.parts)
    match (d.elim .none (·.value)).opened parts with
    | .none => ofEntries parts [] path
    | .dict es => ofEntries parts es path
    | v => .fail (.notAMapping path v.typeName)
where
  /-- Reads the entries of the mapping that describes a class. -/
  ofEntries (parts : Parts) (es : Fields) (path : Option Text) :
      Logged DescriptionError ClassInfo :=
    match ClassInfo.ofValue parts (.dict es) with
    | .ok c =>
      .after [.descriptionRead c.name c.methods.length (DescriptionError.origin path)] (pure c)
    | .error errors =>
      let cls := (Value.field? es "class").map (·.expanded parts)
      if cls.any Value.hasLongNumber then .fail (.unforeseen .longNumber)
      else .fail (.invalidFields path cls errors)

/-- Reads a description from a file. -/
def ofFile (fs : FileSystem) (path : FilePath) : Logged DescriptionError ClassInfo :=
  let name := path.toText
  match fs.read name with
  | .error .zeroCharacter => .fail (.unforeseen .path)
  | .error f => .fail (.unreadableFile name f)
  | .ok bytes =>
    match Text.decode? bytes with
    | none => .fail (.unforeseen .encoding)
    | some text => ofDocument (normalizeNewlines text) (some name)

end ClassInfo

end TestSkeleton
