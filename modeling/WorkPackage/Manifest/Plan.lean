import WorkPackage.Manifest.Settings
import WorkPackage.Signature
import WorkPackage.Table
/-!
# Build plans

A plan is a manifest with every gap closed: settings replace what the manifest
says, the command line replaces both, and defaults fill in the rest.  Its jobs
are typed.
-/

namespace WorkPackage

/-- What the command line says in place of a manifest. -/
structure Overrides where
  executable : Option String := none
  capacity : Option Nat := none
  typeCodes : Option String := none
  settings : List String := []
  deriving DecidableEq, Repr, Inhabited

/-- A job with its type codes and the arguments that fit them. -/
structure PlannedJob where
  typeCodes : String
  values : List Argument
  deriving DecidableEq, Inhabited

/-- Everything that building a package needs to know. -/
structure Plan where
  profile : Profile
  executable : String
  /-- Without a capacity the package is as large as its jobs require. -/
  capacity : Option Nat
  /-- The type codes of jobs without their own and of the job table. -/
  typeCodes : Option String
  jobs : List PlannedJob
  table : TableFormat
  deriving Inhabited

namespace Plan

/-- The profile's name where none is given. -/
def defaultProfileName : String := "default"

/-- The command that starts the worker where none is given. -/
def defaultCommand : RunCommand := { command := "$command", copies := 1 }

/-- The profile, with a name and a command even if the manifest gives none. -/
def completeProfile (profile : Profile) : Profile :=
  { profile with
    name := if profile.name = "" then defaultProfileName else profile.name
    commands :=
      if profile.commands = [] then [defaultCommand] else profile.commands }

/-- Types the jobs of a manifest, counted from an index. -/
def planJobs (typeCodes : Option String) (index : Nat) :
    List JobEntry → Except ConfigFault (List PlannedJob)
  | [] => .ok []
  | entry :: entries =>
      match entry.typeCodes.or typeCodes with
      | none => .error (.jobWithoutTypeCodes index)
      | some codes =>
          match Typing.tomlRow codes.toList entry.values with
          | .error fault => .error (.invalidJob index fault)
          | .ok values =>
              (planJobs typeCodes (index + 1) entries).map
                ({ typeCodes := codes, values } :: ·)

/-- The delimiter as a byte. -/
def asciiDelimiter (delimiter : Char) : Except ConfigFault UInt8 :=
  if delimiter.toNat < 128 then .ok (UInt8.ofNat delimiter.toNat)
  else .error (.delimiterNotAscii delimiter)

/-- Closes the gaps of a manifest to which the settings were applied. -/
def complete (manifest : Manifest) (overrides : Overrides) :
    Except ConfigFault Plan := do
  let profile := completeProfile (manifest.profile.getD {})
  let named :=
    if profile.executable = "" then none else some profile.executable
  let executable ←
    match (overrides.executable.or manifest.executable).or named with
    | some executable => pure executable
    | none => .error .noExecutable
  let typeCodes := overrides.typeCodes.or manifest.typeCodes
  match typeCodes with
  | some codes =>
      let _ ← (Signature.kinds codes.toList).mapError ConfigFault.invalidTypeCodes
  | none => pure ()
  let jobs ← planJobs typeCodes 0 manifest.jobs
  let table := manifest.table.getD {}
  let delimiter ← asciiDelimiter (table.delimiter.getD ',')
  return {
    profile, executable
    capacity := overrides.capacity.or manifest.capacity
    typeCodes, jobs
    table := { delimiter, hasHeaders := table.hasHeaders.getD true } }

def merge (manifest : Manifest) (overrides : Overrides) :
    Except ConfigFault Plan := do
  let settings ← overrides.settings.mapM Setting.read
  complete (settings.foldl Setting.apply manifest) overrides

end Plan

end WorkPackage
