/-!
# Parameters of the command line

A command line has up to two scopes: the words before the command's name belong
to the program, those after it to the command.  Each scope knows its parameters
by long and short names.
-/

namespace WorkPackage

namespace CommandLine

/-- Where on the command line a word stands. -/
inductive Scope where
  | program
  | build
  | inspect
  deriving DecidableEq, Repr

/-- What can be given on a command line. -/
inductive Parameter where
  | verbose
  | quiet
  | logFile
  | help
  | version
  | manifest
  | output
  | jobTable
  | executable
  | capacity
  | typeCodes
  | setting
  /-- The package to look at, the only parameter without a name. -/
  | package
  /-- Asks for a line per slot. -/
  | slots
  deriving DecidableEq, Repr

/-- How many words belong to a parameter. -/
inductive Arity where
  | flag
  | one
  | many
  deriving DecidableEq, Repr

namespace Parameter

def arity : Parameter → Arity
  | verbose | quiet | help | version | slots => .flag
  | setting => .many
  | _ => .one

def long? : Parameter → Option String
  | verbose => some "verbose"
  | quiet => some "quiet"
  | logFile => some "log-file"
  | help => some "help"
  | version => some "version"
  | manifest => some "manifest"
  | output => some "output"
  | jobTable => some "jobs"
  | executable => some "executable"
  | capacity => some "capacity"
  | typeCodes => some "type-codes"
  | setting => some "set"
  | package => none
  | slots => some "jobs"

/-- The letter after one hyphen. -/
def short? : Parameter → Option Char
  | verbose => some 'v'
  | quiet => some 'q'
  | help => some 'h'
  | version => some 'V'
  | manifest => some 'm'
  | output => some 'o'
  | jobTable => some 'j'
  | executable => some 'e'
  | capacity => some 'c'
  | typeCodes => some 't'
  | setting => some 'S'
  | logFile | package | slots => none

/-- Only these may be given more than once. -/
def isRepeatable : Parameter → Bool
  | verbose | setting => true
  | _ => false

/-- A path is never empty. -/
def isPath : Parameter → Bool
  | logFile | manifest | output | jobTable | package => true
  | _ => false

end Parameter

namespace Scope

def commonParameters : List Parameter :=
  [.verbose, .quiet, .logFile, .help, .version]

def options : Scope → List Parameter
  | program => commonParameters
  | build =>
      [.manifest, .output, .jobTable, .executable, .capacity, .typeCodes,
        .setting] ++ commonParameters
  | inspect => .slots :: commonParameters

/-- The parameter that a word without a name is for. -/
def positional? : Scope → Option Parameter
  | inspect => some .package
  | _ => none

/-- The parameters without which a command makes no sense. -/
def required : Scope → List Parameter
  | program => []
  | build => [.manifest, .output]
  | inspect => [.package]

def byLong? (scope : Scope) (name : String) : Option Parameter :=
  scope.options.find? fun parameter => parameter.long? = some name

def byShort? (scope : Scope) (letter : Char) : Option Parameter :=
  scope.options.find? fun parameter => parameter.short? = some letter

def ofCommand? : String → Option Scope
  | "build" => some build
  | "inspect" => some inspect
  | _ => none

end Scope

def helpCommand : String := "help"

def isCommand (word : String) : Bool :=
  word = helpCommand ∨ (Scope.ofCommand? word).isSome

end CommandLine

end WorkPackage
