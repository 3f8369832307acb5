import WorkPackage.Completion
/-!
# Running a package

Every pending job is given to a worker, and each answer is reported to a
tracker.  The first job on which the worker fails ends the run; jobs that
reported before it stay completed, so that a later run goes on with the rest.
-/

namespace WorkPackage

abbrev Worker := Job → Except String (List UInt32)

/-- Why a run has no results. -/
inductive RunFault where
  /-- The worker failed on the job of that number. -/
  | worker (number : Int32) (complaint : String)
  /-- The results could not be collected. -/
  | collection (fault : Fault)
  deriving DecidableEq, Repr

namespace RunFault

def message : RunFault → String
  | worker number complaint =>
      s!"Worker failed on job {number.toInt}: {complaint}"
  | collection fault => fault.message

end RunFault

/-- What a run left behind: the package, the events in order, and the results in
ascending order of their job numbers. -/
structure Execution where
  package : Package
  events : List Event
  outcome : Except RunFault (List JobResult)

/-- Gives jobs to a worker one after the other, up to the first failure. -/
def reports (worker : Worker) : List Job → List JobResult × Option RunFault
  | [] => ([], none)
  | job :: jobs =>
      match worker job with
      | .error complaint => ([], some (.worker job.number complaint))
      | .ok data =>
          let (later, failure) := reports worker jobs
          ({ number := job.number, data } :: later, failure)

namespace Package

def execute (package : Package) (worker : Worker) : Execution :=
  let pending := package.pendingJobs
  let (queue, failure) := reports worker pending
  let waited := Tracker.waitForAll { package } queue
  let events := .packageStart pending.length :: waited.events
  let after := waited.tracker.package
  match failure, waited.outcome with
  | some failure, _ => { package := after, events, outcome := .error failure }
  | none, .error fault =>
      { package := after, events, outcome := .error (.collection fault) }
  | none, .ok () =>
      { package := after
        events := events ++ [.packageFinish]
        outcome := .ok waited.tracker.results }

end Package

end WorkPackage
