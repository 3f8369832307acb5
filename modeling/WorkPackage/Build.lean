import WorkPackage.Failure
import WorkPackage.Population
import WorkPackage.Wire.Frame
/-!
# Building packages

A package is built in three steps: the manifest and the command line make a
plan, the job table gives rows of arguments, and plan and rows make the package.
Nothing is written unless all of them succeed.
-/

namespace WorkPackage

/-- What the file at a path holds, or why it cannot be read. -/
abbrev FileSource := String → Except FileFault (List UInt8)

/-- The rows of a job table and the type codes that they were read with. -/
structure TypedTable where
  typeCodes : String
  rows : List (List Argument)
  deriving Inhabited

namespace Plan

def readTable (plan : Plan) (files : FileSource) (path : String) :
    Except Failure TypedTable :=
  match plan.typeCodes with
  | none => .error (.configuration .tableWithoutTypeCodes)
  | some typeCodes =>
      match files path with
      | .error fault => .error (.noTable path fault)
      | .ok bytes =>
          match Table.read typeCodes.toList plan.table bytes with
          | .error fault => .error (.table path fault)
          | .ok rows => .ok { typeCodes, rows }

/-- Adds planned jobs until one is refused. -/
def addPlanned (package : Package) (jobs : List PlannedJob) :
    Except Fault Package :=
  jobs.foldlM (fun package job => package.addJob job.typeCodes.toList job.values)
    package

/-- Adds the rows of a table, if there is one. -/
def addTable (package : Package) : Option TypedTable → Except Fault Package
  | none => .ok package
  | some table =>
      let population := package.populate table.typeCodes.toList table.rows
      population.outcome.map fun _ => population.package

def jobCount (plan : Plan) (table : Option TypedTable) : Nat :=
  plan.jobs.length + (table.map fun table => table.rows.length).getD 0

/-- Makes the package.  Without a capacity it has one slot per job. -/
def assemble (plan : Plan) (table : Option TypedTable) :
    Except Failure Package := do
  let jobs := plan.jobCount table
  let capacity := plan.capacity.getD jobs
  if capacity < jobs then
    .error (.configuration (.tooManyJobs jobs capacity))
  else
    let made := do
      let package ← Package.new plan.profile plan.executable capacity
      let package ← addPlanned package plan.jobs
      addTable package table
    made.mapError .package

end Plan

namespace BuildRequest

def plan (request : BuildRequest) (files : FileSource) : Except Failure Plan := do
  let bytes ←
    (files request.manifest).mapError (.noManifest request.manifest)
  let manifest ←
    (Manifest.read bytes).mapError (.manifest request.manifest)
  (Plan.merge manifest request.overrides).mapError .configuration

def package (request : BuildRequest) (files : FileSource) :
    Except Failure Package := do
  let plan ← request.plan files
  let table ← request.jobTable.mapM (plan.readTable files)
  plan.assemble table

def report (request : BuildRequest) (package : Package) (size : Nat) : List Char :=
  let content :=
    s!"'{package.profile.executable}' with {package.added}/{package.capacity} jobs"
  s!"✓ Package for {content} written to {request.output} ({size} bytes)\n".toList

def run (request : BuildRequest) (files : FileSource) :
    Except Failure (List UInt8 × List Char) := do
  let package ← request.package files
  let bytes ← package.frame.mapError .package
  return (bytes, request.report package bytes.length)

end BuildRequest

end WorkPackage
