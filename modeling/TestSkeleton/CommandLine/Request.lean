import TestSkeleton.CommandLine.Page
import TestSkeleton.File.System
import TestSkeleton.Source.Loading

set_option autoImplicit false

/-! # Requests

What the arguments of the program ask for. First the options are told from the other arguments;
then help goes before everything else; then the values of the options are checked in the order in
which they are given, then the argument that every command has, then the options that are not
given, of which one may have a value from elsewhere. Arguments that are left over are an error only
after all that.
-/

namespace TestSkeleton

open Text

/-- A parameter of a command. -/
inductive Parameter where
  | className
  | metadataFile
  | sourceFile
  | testClassName
  | output
  | format
  | templateDirectory
deriving DecidableEq, Repr

namespace Parameter

/-- The parameter as it is written: in capital letters if it is not an option. -/
def name : Parameter → Text
  | className => "CLASS_NAME"
  | metadataFile => "METADATA_FILE"
  | sourceFile => "--source-file"
  | testClassName => "--test-class-name"
  | output => "--output"
  | format => "--format"
  | templateDirectory => "--template-dir"

/-- The parameters that are options. -/
def options : List Parameter := [sourceFile, testClassName, output, format, templateDirectory]

/-- The option of this name. -/
def ofName? (name : Text) : Option Parameter := options.find? fun p => p.name == name

/-- What a path is called in messages. -/
def pathKind : Parameter → Text
  | sourceFile | output => "File"
  | templateDirectory => "Directory"
  | _ => "Path"

end Parameter

/-- What is wrong with a value. -/
inductive ValueFault where
  | notAChoice
  | doesNotExist
  | isDirectory
  | isFile
deriving DecidableEq, Repr

/-- Why arguments ask for nothing that can be done. -/
inductive UsageError where
  /-- There are no arguments. -/
  | nothingAsked
  | option (e : OptionError)
  | missingCommand
  /-- There is no command of this name, but there are some with similar ones. -/
  | noSuchCommand (name : Text) (similar : List Text)
  | missingArgument (p : Parameter)
  | invalidValue (p : Parameter) (value : Text) (fault : ValueFault)
  | extraArguments (arguments : List Text)
deriving DecidableEq, Repr

/-- The formats of the result: on the standard output, or in a file. -/
inductive OutputFormat where
  | text
  | file
deriving DecidableEq, Repr

namespace OutputFormat

/-- The name of a format. -/
def name : OutputFormat → Text
  | text => "text"
  | file => "file"

/-- All formats. -/
def all : List OutputFormat := [text, file]

/-- The format of this name. -/
def ofName? (name : Text) : Option OutputFormat := all.find? fun f => f.name == name

end OutputFormat

namespace UsageError

/-- What is wrong with a value, in words. -/
def faultMessage (p : Parameter) (value : Text) : ValueFault → Text
  | .notAChoice =>
    quoted value ++ " is not one of " ++ joinWith ", " (OutputFormat.all.map fun f => quoted f.name)
      ++ ['.']
  | .doesNotExist => p.pathKind ++ ' ' :: quoted value ++ " does not exist."
  | .isDirectory => p.pathKind ++ ' ' :: quoted value ++ " is a directory."
  | .isFile => p.pathKind ++ ' ' :: quoted value ++ " is a file."

/-- The question whether a similar name is meant. -/
def question : List Text → Text
  | [] => []
  | [name] => " Did you mean " ++ quoted name ++ ['?']
  | names => " (Did you mean one of: " ++ joinWith ", " (names.map quoted) ++ "?)".toList

/-- The error in words. -/
def message : UsageError → Text
  | nothingAsked => "Missing command."
  | option (.unknown name similar) => "No such option " ++ quoted name ++ '.' :: question similar
  | option (.missingValue name) => "Option " ++ quoted name ++ " requires an argument."
  | option (.unwantedValue name) => "Option " ++ quoted name ++ " does not take a value."
  | missingCommand => "Missing command."
  | noSuchCommand name similar => "No such command " ++ quoted name ++ '.' :: question similar
  | missingArgument p => "Missing argument " ++ quoted p.name ++ ['.']
  | invalidValue p value fault =>
    "Invalid value for " ++ quoted p.name ++ ": " ++ faultMessage p value fault
  | extraArguments arguments =>
    "Got unexpected extra argument" ++ (if arguments.length == 1 then [] else ['s']) ++ " ("
      ++ joinWith [' '] arguments ++ [')']

/-- What is shown for an error in the arguments of a command. -/
def report (page : Page) (e : UsageError) : Text :=
  let line : Text := "Error: " ++ e.message ++ ['\n']
  match e with
  | nothingAsked => page.help
  | option (.missingValue _) | option (.unwantedValue _) => line
  | _ => page.usage ++ page.hint ++ '\n' :: line

end UsageError

/-- Why arguments are not understood. -/
inductive RequestError where
  /-- The error, with the page that tells better. -/
  | usage (page : Page) (e : UsageError)
  /-- A path that no file can have. -/
  | unusablePath (f : FileSystem.Failure)
deriving DecidableEq, Repr

/-- Where what is to be known about a class comes from. -/
inductive ClassOrigin where
  | code (r : ClassRequest)
  /-- A file with a description. -/
  | description (path : FilePath)
deriving DecidableEq, Repr

/-- A request to generate tests. -/
structure GenerationRequest where
  origin : ClassOrigin
  testClassName : Option Text := none
  /-- The path of the file to write, if it is not to be found out. -/
  output : Option Text := none
  format : OutputFormat := .text
  templateDirectory : Option Text := none
  verbose : Bool := false
deriving DecidableEq, Repr

/-- What the arguments ask for. -/
inductive Request where
  | help (page : Page)
  | version
  | generate (g : GenerationRequest)
deriving DecidableEq, Repr

/-! ## Values -/

namespace Parameter

/-- What is wrong with the value of a parameter, if anything is. -/
def fault? (fs : FileSystem) (p : Parameter) (value : Text) : Option ValueFault :=
  match p with
  | className | testClassName => none
  | format => if (OutputFormat.ofName? value).isNone then some .notAChoice else none
  | metadataFile => if fs.pathExists value then none else some .doesNotExist
  | sourceFile =>
    if !fs.pathExists value then some .doesNotExist
    else if fs.isDirectory value then some .isDirectory else none
  | output => if fs.isDirectory value then some .isDirectory else none
  | templateDirectory =>
    if !fs.pathExists value then some .doesNotExist
    else if fs.isFile value then some .isFile else none

/-- Whether the value of a parameter is looked for among the files. -/
def isPath : Parameter → Bool
  | metadataFile | sourceFile | output | templateDirectory => true
  | className | testClassName | format => false

/-- Checks the value of a parameter. -/
def check (fs : FileSystem) (page : Page) (p : Parameter) (value : Text) :
    Except RequestError Unit :=
  if p.isPath && FileSystem.holdsZero value then .error (.unusablePath ⟨.zeroCharacter, value⟩)
  else
    match p.fault? fs value with
    | some f => .error (.usage page (.invalidValue p value f))
    | none => .ok ()

end Parameter

/-! ## Commands -/

namespace Page

/-- The option that asks for help. -/
def helpOption : CommandOption := ⟨"--help", none, false⟩

/-- The option that asks for the version. -/
def versionOption : CommandOption := ⟨"--version", none, false⟩

/-- The option that asks to be told of every step. -/
def verboseOption : CommandOption := ⟨"--verbose", some 'v', false⟩

/-- The parameters of a command that are options. -/
def parameters : Page → List Parameter
  | program => []
  | generate => Parameter.options
  | generateFromMetadata => Parameter.options.filter (· != .sourceFile)

/-- The options of the program or a command. -/
def options (p : Page) : List CommandOption :=
  match p with
  | program => [versionOption, helpOption]
  | _ => (p.parameters.map fun q => ⟨q.name, none, true⟩) ++ [verboseOption, helpOption]

/-- The parameter of a command that is not an option. -/
def argument : Page → Parameter
  | generateFromMetadata => .metadataFile
  | _ => .className

end Page

namespace Request

/-- What a command is asked for by the arguments behind its name. `templateVariable` is the
directory with templates that holds if none is given. -/
def ofCommand (fs : FileSystem) (templateVariable : Option Text) (page : Page)
    (arguments : List Text) : Except RequestError Request := do
  let given ← (CommandOption.read page.options true none arguments).mapError fun e =>
    .usage page (.option e)
  if given.has Page.helpOption.name then return .help page
  for name in given.names do
    match Parameter.ofName? name, given.value? name with
    | some p, some value => p.check fs page value
    | _, _ => pure ()
  match given.arguments with
  | [] => throw (.usage page (.missingArgument page.argument))
  | argument :: rest =>
    page.argument.check fs page argument
    let value? (p : Parameter) := given.value? p.name
    let templateDirectory ←
      match value? .templateDirectory, templateVariable with
      | some d, _ => pure (some d)
      | none, some d@(_ :: _) => do
        Parameter.check fs page .templateDirectory d
        pure (some d)
      | none, _ => pure none
    if !rest.isEmpty then throw (.usage page (.extraArguments rest))
    return .generate {
      origin :=
        match page with
        | .generateFromMetadata => .description (.ofText argument)
        | _ => .code ⟨argument, (value? .sourceFile).map FilePath.ofText⟩
      testClassName := value? .testClassName
      output := value? .output
      format := ((value? .format).bind OutputFormat.ofName?).getD .text
      templateDirectory := templateDirectory
      verbose := given.has Page.verboseOption.name }

/-- What options before the name of a command ask for, if anything, and the arguments behind
them. -/
def ofProgramOptions (arguments : List Text) : Except UsageError (Option Request × List Text) := do
  let given ← (CommandOption.read Page.program.options false none arguments).mapError .option
  let asked := given.names.head?.map fun name =>
    if name == Page.helpOption.name then Request.help .program else .version
  return (asked, given.arguments)

/-- Whether a text starts like an option. -/
def looksLikeOption (t : Text) : Bool := t.head?.any fun c => !isAlphanumeric c

/-- What the arguments of the program ask for. If what should be a command starts like an option, it
gets a second chance to be one. -/
def ofArguments (fs : FileSystem) (templateVariable : Option Text) (arguments : List Text) :
    Except RequestError Request := do
  if arguments.isEmpty then throw (.usage .program .nothingAsked)
  match ← (ofProgramOptions arguments).mapError (.usage .program) with
  | (some r, _) => return r
  | (none, []) => throw (.usage .program .missingCommand)
  | (none, name :: rest) =>
    match Page.ofCommand? name with
    | some page => ofCommand fs templateVariable page rest
    | none =>
      if looksLikeOption name then
        if let (some r, _) ← (ofProgramOptions (name :: rest)).mapError (.usage .program) then
          return r
      throw (.usage .program (.noSuchCommand name (mostLike Page.commandNames name)))

end Request

end TestSkeleton
