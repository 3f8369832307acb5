import WorkPackage.CommandLine
import WorkPackage.Manifest.Reader
import WorkPackage.Path
/-!
# Failures

A failure is the reason why a command line came to nothing.  It says which step
failed, on which file, and for what cause.
-/

namespace WorkPackage

/-- Why a command came to nothing. -/
inductive Failure where
  | usage (fault : CommandLine.UsageFault)
  /-- The manifest's file cannot be read. -/
  | noManifest (path : String) (fault : FileFault)
  | manifest (path : String) (fault : Manifest.ReadFault)
  | configuration (fault : ConfigFault)
  /-- The job table's file cannot be read. -/
  | noTable (path : String) (fault : FileFault)
  | table (path : String) (fault : TableFault)
  /-- The jobs do not make a package. -/
  | package (fault : Fault)
  /-- The package cannot be written where it should be. -/
  | unwritable (path : String) (fault : FileFault)
  /-- The package's file cannot be read. -/
  | noPackage (path : String) (fault : FileFault)
  | unreadablePackage (path : String) (fault : Fault)
  deriving DecidableEq, Repr

namespace CommandLine.UsageFault

def message : UsageFault → String
  | helpRequested => "help was requested"
  | versionRequested => "the version was requested"
  | nothingGiven | missingCommand => "a command is required: build or inspect"
  | missingParameter => "a required parameter is missing"
  | unknownParameter => "unexpected parameter"
  | unknownCommand => "unrecognized command"
  | missingValue => "a value is required"
  | invalidValue => "invalid value"
  | unexpectedValue => "a flag takes no value"
  | conflict => "parameters exclude each other"

end CommandLine.UsageFault

namespace Failure

def inFile (path cause : String) : String :=
  s!"Failed to parse file '{path}': {cause}"

def message : Failure → String
  | usage fault => fault.message
  | noManifest _ fault => s!"I/O error: {fault.message}"
  | manifest _ .notText => "I/O error: the file is not valid UTF-8"
  | manifest path .malformed => inFile path "not a valid manifest"
  | configuration fault => fault.message
  | noTable path fault | noPackage path fault => inFile path fault.message
  | table path fault =>
      inFile path (fault.message?.getD "a record is not valid UTF-8")
  | package fault => fault.message
  | unwritable _ fault => fault.message
  | unreadablePackage path fault => inFile path fault.message

end Failure

end WorkPackage
