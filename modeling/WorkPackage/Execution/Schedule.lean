import WorkPackage.Execution
/-!
# Schedules

A pool runs the pending jobs of a package in any order and several at a time,
while a tracker receives their results as they come.  Nothing fixes who acts
when: a schedule is a list of actions, and all schedules whose actions are
possible in turn are taken into account.

Once a worker has failed, jobs that were not started may be left, or started all
the same.  The pool answers with one of the failures, and which one that is
depends on how it divided the jobs; so it may be any of them.
-/

namespace WorkPackage

namespace Package

/-- The filled slots whose job is not completed, each with its job. -/
def pendingEntries (package : Package) : List (Job × Nat) :=
  package.filled.zipIdx.filter fun entry => !entry.1.completed

def pendingSlots (package : Package) : List Nat :=
  package.pendingEntries.map Prod.snd

end Package

/-- What the tracker is at. -/
inductive Watch where
  /-- It looks whether a job is pending. -/
  | looking
  /-- It waits for a result. -/
  | receiving
  | ended (outcome : Except Fault Unit)

/-- The state of a pool and its tracker.  Jobs are known by their slots. -/
structure Run where
  /-- The jobs that the pool has not started. -/
  waiting : List Nat
  /-- The jobs that a worker is at. -/
  running : List Nat := []
  failures : List RunFault := []
  /-- The results sent and not yet received. -/
  queue : List JobResult := []
  tracker : Tracker
  watch : Watch := .looking
  events : List Event

/-- What the pool can do about a job. -/
inductive Move where
  | start
  | report
  | fail
  | abandon
  deriving DecidableEq, Repr

/-- What happens in one turn. -/
inductive Action where
  | pool (move : Move) (slot : Nat)
  | track
  deriving DecidableEq, Repr

/-- The slots with which the pool made a move, in that order. -/
def slotsOf (move : Move) (schedule : List Action) : List Nat :=
  schedule.filterMap fun
    | .pool other slot => if other = move then some slot else none
    | .track => none

namespace Run

/-- A package whose pending jobs are about to be run. -/
def ofPackage (package : Package) : Run where
  waiting := package.pendingSlots
  tracker := { package }
  events := [.packageStart package.pendingCount]

/-- Has the pool nothing to do any more?  Then nobody holds on to the sending
end of the queue. -/
def Idle (run : Run) : Prop :=
  run.waiting = [] ∧ run.running = []

end Run

/-- What an action may do to a run. -/
inductive Step (worker : Worker) : Run → Action → Run → Prop where
  | start {run : Run} {slot : Nat} (waits : slot ∈ run.waiting) :
      Step worker run (.pool .start slot)
        { run with
          waiting := run.waiting.erase slot
          running := slot :: run.running }
  /-- The worker has an answer, and sends it. -/
  | report {run : Run} {slot : Nat} {job : Job} {data : List UInt32}
      (runs : slot ∈ run.running)
      (found : run.tracker.package.filled[slot]? = some job)
      (answered : worker job = .ok data) :
      Step worker run (.pool .report slot)
        { run with
          running := run.running.erase slot
          queue := run.queue ++ [{ number := job.number, data }] }
  | fail {run : Run} {slot : Nat} {job : Job} {complaint : String}
      (runs : slot ∈ run.running)
      (found : run.tracker.package.filled[slot]? = some job)
      (failed : worker job = .error complaint) :
      Step worker run (.pool .fail slot)
        { run with
          running := run.running.erase slot
          failures := run.failures ++ [.worker job.number complaint] }
  | abandon {run : Run} {slot : Nat} (waits : slot ∈ run.waiting)
      (failed : run.failures ≠ []) :
      Step worker run (.pool .abandon slot)
        { run with waiting := run.waiting.erase slot }
  /-- A job is pending, so that the tracker waits for a result. -/
  | look {run : Run} (looks : run.watch = .looking)
      (pending : run.tracker.isFinished = false) :
      Step worker run .track { run with watch := .receiving }
  | leave {run : Run} (looks : run.watch = .looking)
      (finished : run.tracker.isFinished = true) :
      Step worker run .track { run with watch := .ended (.ok ()) }
  | receive {run : Run} {result : JobResult} {queue : List JobResult}
      {handled : Handled} (waits : run.watch = .receiving)
      (queued : run.queue = result :: queue)
      (handles : run.tracker.handle result = .ok handled) :
      Step worker run .track
        { run with
          queue
          tracker := handled.tracker
          watch := .looking
          events := run.events ++ [handled.event] }
  | refuse {run : Run} {result : JobResult} {queue : List JobResult}
      {fault : Fault} (waits : run.watch = .receiving)
      (queued : run.queue = result :: queue)
      (refuses : run.tracker.handle result = .error fault) :
      Step worker run .track { run with queue, watch := .ended (.error fault) }
  /-- Nothing is queued, and nobody is left who could send. -/
  | hangUp {run : Run} (waits : run.watch = .receiving)
      (empty : run.queue = []) (idle : run.Idle) :
      Step worker run .track
        { run with
          watch := .ended
            (.error (.channelClosed run.tracker.package.pendingCount)) }

/-- The schedules that lead from one run to another. -/
inductive Follows (worker : Worker) (first : Run) : List Action → Run → Prop where
  | refl : Follows worker first [] first
  | snoc {schedule : List Action} {run next : Run} {action : Action}
      (before : Follows worker first schedule run)
      (step : Step worker run action next) :
      Follows worker first (schedule ++ [action]) next

/-- What is returned when pool and tracker have come to an end.  A failure of
the worker goes before the fault that the tracker ended with. -/
inductive Run.Returns (run : Run) : Execution → Prop where
  | failed {fault : RunFault} {outcome : Except Fault Unit} (idle : run.Idle)
      (ended : run.watch = .ended outcome) (failed : fault ∈ run.failures) :
      run.Returns
        { package := run.tracker.package
          events := run.events
          outcome := .error fault }
  | refused {fault : Fault} (idle : run.Idle)
      (ended : run.watch = .ended (.error fault)) (succeeded : run.failures = []) :
      run.Returns
        { package := run.tracker.package
          events := run.events
          outcome := .error (.collection fault) }
  | collected (idle : run.Idle) (ended : run.watch = .ended (.ok ()))
      (succeeded : run.failures = []) :
      run.Returns
        { package := run.tracker.package
          events := run.events ++ [.packageFinish]
          outcome := .ok run.tracker.results }

/-- Running a package under a schedule may come to this. -/
def Executes (package : Package) (worker : Worker) (schedule : List Action)
    (execution : Execution) : Prop :=
  ∃ run, Follows worker (Run.ofPackage package) schedule run ∧
    run.Returns execution

end WorkPackage
