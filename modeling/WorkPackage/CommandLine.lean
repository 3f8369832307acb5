import WorkPackage.CommandLine.Reading
import WorkPackage.Manifest.Plan
/-!
# Command lines

A command line asks either to build a package or to look at one, and says how
much to report meanwhile.  The parameters on reporting may stand on both sides
of the command's name; the side after it decides.
-/

namespace WorkPackage

/-- What is needed to build a package. -/
structure BuildRequest where
  manifest : String
  output : String
  jobTable : Option String := none
  overrides : Overrides := {}
  deriving DecidableEq, Repr

/-- What is needed to look at a package. -/
structure InspectRequest where
  package : String
  withJobs : Bool := false
  deriving DecidableEq, Repr

inductive Command where
  | build (request : BuildRequest)
  | inspect (request : InspectRequest)
  deriving DecidableEq, Repr

def Command.inputs : Command → List String
  | build request => request.manifest :: request.jobTable.toList
  | inspect request => [request.package]

/-- How much is reported: each level includes the ones before it. -/
inductive ReportLevel where
  | error
  | warning
  | information
  | debug
  | trace
  deriving DecidableEq, Repr

/-- A command with the parameters on reporting. -/
structure Invocation where
  command : Command
  verbosity : Nat := 0
  quiet : Bool := false
  logFile : Option String := none
  deriving DecidableEq, Repr

/-- Faults are reported even by a quiet run. -/
def Invocation.level (invocation : Invocation) : ReportLevel :=
  if invocation.quiet then .error
  else
    match invocation.verbosity with
    | 0 => .warning
    | 1 => .information
    | 2 => .debug
    | _ => .trace

def Invocation.reports (invocation : Invocation) (level : ReportLevel) : Bool :=
  level.ctorIdx ≤ invocation.level.ctorIdx

namespace CommandLine

def version : String := "work-package 0.1.0"

def usage : String :=
  String.intercalate "\n" [
    "Build and inspect job package files.",
    "",
    "Usage: work-package [OPTIONS] build -m PATH -o PATH [-j PATH] [-e NAME]",
    "         [-c INT] [-t CODES] [-S KEY=VALUE ...]",
    "       work-package [OPTIONS] inspect PATH [--jobs]",
    "",
    "  -v, --verbose        report more; up to three times",
    "  -q, --quiet          report failures only",
    "      --log-file PATH  also write what is reported to a file",
    "  -h, --help           print this text",
    "  -V, --version        print the version"]

/-- No more than this many requests to be verbose are counted. -/
def maxVerbosity : Nat := 255

/-- Help may be asked for on a chain of commands; none has commands of its own. -/
def helpOn : List String → UsageFault
  | [] => .helpRequested
  | [word] => if isCommand word then .helpRequested else .unknownCommand
  | _ => .unknownCommand

def command? (scope : Scope) (reading : Reading) : Option Command := do
  match scope with
  | .program => none
  | .build =>
      return .build {
        manifest := ← reading.value? .manifest
        output := ← reading.value? .output
        jobTable := reading.value? .jobTable
        overrides := {
          executable := reading.value? .executable
          capacity :=
            (reading.value? .capacity).bind fun word => Decimal.size? word.toList
          typeCodes := reading.value? .typeCodes
          settings := reading.values .setting } }
  | .inspect =>
      return .inspect {
        package := ← reading.value? .package
        withJobs := reading.has .slots }

def invocation (outer inner : Reading) (command : Command) : Invocation :=
  let verbosity := fun (reading : Reading) =>
    min (reading.count .verbose) maxVerbosity
  { command
    verbosity := if inner.has .verbose then verbosity inner else verbosity outer
    quiet := inner.has .quiet || outer.has .quiet
    logFile := (inner.value? .logFile).or (outer.value? .logFile) }

/-- Closes the program's scope where no command follows. -/
def withoutCommand (reading : Reading) : Except UsageFault Invocation := do
  let reading ← reading.resolve
  if reading.given = [] then .error .nothingGiven else .error .missingCommand

/-- Reads the command and its words; the command's faults come before those that
the program's scope still has. -/
def readCommand (outer : Reading) (scope : Scope) (words : List String) :
    Except UsageFault Invocation := do
  let inner ← Reading.ofWords scope words
  let outer ← outer.resolve
  outer.validate .program
  match command? scope inner with
  | some command => return invocation outer inner command
  | none => .error .missingParameter

def readProgram : Reading → List String → Except UsageFault Invocation
  | reading, [] => withoutCommand reading
  | reading, word :: words =>
      if reading.trailing ∨ reading.awaiting ∨ ¬isCommand word then do
        let reading ← Reading.readWord .program reading word
        readProgram reading words
      else
        match Scope.ofCommand? word with
        | some scope => readCommand reading scope words
        | none => .error (helpOn words)

/-- Reads a command line without the program's name. -/
def read (words : List String) : Except UsageFault Invocation :=
  readProgram {} words

end CommandLine

end WorkPackage
