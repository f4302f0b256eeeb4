import TestSkeleton.CommandLine.Option

set_option autoImplicit false

/-! # Help

The program has a page of help of its own and one for each of its commands. A page starts with the
usage, that is, with what to write.
-/

namespace TestSkeleton

open Text

/-- What a page of help is about: the program or one of its commands. -/
inductive Page where
  | program
  | generate
  | generateFromMetadata
deriving DecidableEq, Repr

/-- The name of the program. -/
def programName : Text := "docassert"

namespace Page

/-- The name of a command. -/
def commandName? : Page → Option Text
  | program => none
  | generate => some "generate"
  | generateFromMetadata => some "generate-from-metadata"

/-- The pages of commands. -/
def commands : List Page := [generate, generateFromMetadata]

/-- The names of the commands. -/
def commandNames : List Text := commands.filterMap commandName?

/-- The command of this name. -/
def ofCommand? (name : Text) : Option Page := commands.find? fun p => p.commandName? == some name

/-- How the program or a command is called. -/
def callName (p : Page) : Text :=
  match p.commandName? with
  | some c => programName ++ ' ' :: c
  | none => programName

/-- What follows the name. -/
def operands : Page → Text
  | program => "[OPTIONS] COMMAND [ARGS]..."
  | generate => "[OPTIONS] CLASS_NAME"
  | generateFromMetadata => "[OPTIONS] METADATA_FILE"

/-- What to write. -/
def usage (p : Page) : Text := "Usage: " ++ p.callName ++ ' ' :: p.operands ++ ['\n']

/-- Where to find help. -/
def hint (p : Page) : Text := "Try '" ++ p.callName ++ " --help' for help.\n"

/-- The options of both commands. -/
def sharedOptions : Text :=
"  --test-class-name TEXT    Name of the generated test class (default:
                            <ClassName>Test)
  --output FILE             File to write with --format file (default: .~unit-
                            tests/ next to the source)
  --format [text|file]      Output format: 'text' prints to stdout, 'file'
                            writes the test module
  --template-dir DIRECTORY  Directory with templates overriding the built-in
                            ones
  -v, --verbose             Log debug information
  --help                    Show this message and exit.
"

/-- What the program does. -/
def programDescription : Text :=
"  docassert: generate unit-test skeletons from @assert annotations.

Options:
  --version  Show the version and exit.
  --help     Show this message and exit.

Commands:
  generate                Generate tests for a Python class.
  generate-from-metadata  Generate tests from a YAML class description.
"

/-- What the command does that generates tests from code. -/
def generateDescription : Text :=
"  Generate tests for a Python class.

  CLASS_NAME is a dotted path such as package.module.Class, or a bare class name
  when --source-file is given.

  Exit codes:   0 - Success   1 - Malformed @assert annotation   2 - Class, file
  or template error

Options:
  --source-file FILE        File defining the class (CLASS_NAME may then be 'ns-
                            class')
"

/-- What the command does that generates tests from a description. -/
def generateFromMetadataDescription : Text :=
"  Generate tests from a YAML class description.

  METADATA_FILE is the path to a YAML file listing the class's methods and their
  doc comments.

  Exit codes:   0 - Success   1 - Malformed @assert annotation   2 - Metadata,
  file or template error

Options:
"

/-- What stands below the usage. -/
def description : Page → Text
  | program => programDescription
  | generate => generateDescription ++ sharedOptions
  | generateFromMetadata => generateFromMetadataDescription ++ sharedOptions

/-- The page. -/
def help (p : Page) : Text := p.usage ++ '\n' :: p.description

end Page

end TestSkeleton
