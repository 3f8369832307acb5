import WorkPackage.Package
import WorkPackage.Result
import WorkPackage.Event
/-!
# Completion

A tracker takes the results that workers report and completes their jobs.  The
first result of a job is kept, a later one is dropped with a remark, and one that
names no filled slot is refused.  Results wait in a queue; draining handles all
of it, waiting stops as soon as no job is pending.
-/

namespace WorkPackage

/-- A package whose results are collected, with those kept so far in ascending
order of their job numbers. -/
structure Tracker where
  package : Package
  results : List JobResult := []
  deriving DecidableEq, Inhabited

/-- What handling one result did: the tracker after it, the event to report, and
whether a job was completed. -/
structure Handled where
  tracker : Tracker
  event : Event
  completed : Bool

/-- Where working off a queue ended: the tracker, the results still queued, the
events in order, and the outcome. -/
structure Progress (α : Type) where
  tracker : Tracker
  queue : List JobResult
  events : List Event
  outcome : Except Fault α

namespace Tracker

/-- Keeps a result in its place; one with the same number is replaced. -/
def keep (result : JobResult) : List JobResult → List JobResult
  | [] => [result]
  | other :: others =>
      if result.number < other.number then result :: other :: others
      else if result.number = other.number then result :: others
      else other :: keep result others

/-- Is no filled slot pending? -/
def isFinished (tracker : Tracker) : Bool :=
  tracker.package.pendingCount = 0

/-- Takes one result. -/
def handle (tracker : Tracker) (result : JobResult) : Except Fault Handled :=
  match tracker.package.completeFilled? result.number with
  | none => .error (.unknownJob result.number)
  | some (true, package) =>
      .ok
        { tracker := { package, results := keep result tracker.results }
          event := .jobCompleted result.number
          completed := true }
  | some (false, _) =>
      .ok
        { tracker
          event := .duplicateIgnored result.number
          completed := false }

/-- Handles the whole queue and counts the jobs that it completed.  A result
that is refused is consumed and ends the work; those behind it stay queued. -/
def drain (tracker : Tracker) : List JobResult → Progress Nat
  | [] => { tracker, queue := [], events := [], outcome := .ok 0 }
  | result :: queue =>
      match tracker.handle result with
      | .error fault => { tracker, queue, events := [], outcome := .error fault }
      | .ok handled =>
          let later := handled.tracker.drain queue
          { later with
            events := handled.event :: later.events
            outcome := later.outcome.map (· + handled.completed.toNat) }

/-- Handles the queue until no job is pending.  Nobody reports any more, so a
queue that ends too early ends the wait with a fault. -/
def waitForAll (tracker : Tracker) (queue : List JobResult) : Progress Unit :=
  if tracker.isFinished then
    { tracker, queue, events := [], outcome := .ok () }
  else
    match queue with
    | [] =>
        { tracker
          queue := []
          events := []
          outcome := .error (.channelClosed tracker.package.pendingCount) }
    | result :: queue =>
        match tracker.handle result with
        | .error fault =>
            { tracker, queue, events := [], outcome := .error fault }
        | .ok handled =>
            let later := handled.tracker.waitForAll queue
            { later with events := handled.event :: later.events }

end Tracker

end WorkPackage
