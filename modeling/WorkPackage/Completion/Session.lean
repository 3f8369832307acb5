import WorkPackage.Marking
/-!
# Sessions of a tracker

A tracker is used for a while.  It is handed results, or it takes them from its
queue when it drains the queue or waits; meanwhile results are sent, and others
mark jobs of the same package.  Draining and waiting take one result at a time, and
anything may come in between.  To take a result is one step, at the swap of its
flag, and so is a call of others and a look at what is pending.
-/

namespace WorkPackage

/-- The number of the job that an event reports as completed. -/
def Event.completed? : Event → Option Int32
  | jobCompleted number => some number
  | _ => none

/-- A result that a tracker was handed, and what came of it: whether it
completed its job, or why it was refused. -/
structure Handed where
  result : JobResult
  outcome : Except Fault Bool

namespace Handed

/-- The event that is reported. -/
def event? : Handed → Option Event
  | { result, outcome := .ok true } => some (.jobCompleted result.number)
  | { result, outcome := .ok false } => some (.duplicateIgnored result.number)
  | { outcome := .error _, .. } => none

/-- The result, if it completed its job. -/
def completion? : Handed → Option JobResult
  | { result, outcome := .ok true } => some result
  | _ => none

end Handed

/-- A tracker with all that has happened to its package since it was made. -/
structure Tracking where
  tracker : Tracker
  /-- The events that the tracker has reported. -/
  events : List Event := []
  /-- The results that the tracker was handed. -/
  handed : List Handed := []
  /-- The calls by which others marked jobs. -/
  outside : List Answered := []

namespace Tracking

/-- The results that completed their jobs. -/
def completions (tracking : Tracking) : List JobResult :=
  tracking.handed.filterMap Handed.completion?

/-- The tracker is handed a result. -/
def hand (tracking : Tracking) (result : JobResult) : Tracking :=
  match tracking.tracker.handle result with
  | .error fault =>
      { tracking with
        handed := tracking.handed ++ [{ result, outcome := .error fault }] }
  | .ok handled =>
      { tracking with
        tracker := handled.tracker
        events := tracking.events ++ [handled.event]
        handed := tracking.handed ++ [{ result, outcome := .ok handled.completed }] }

/-- Somebody else makes a call. -/
def interfere (tracking : Tracking) (caller : Nat) (marking : Marking) : Tracking :=
  let answer := tracking.tracker.package.call marking
  { tracking with
    tracker := { tracking.tracker with package := answer.2 }
    outside := tracking.outside ++ [{ caller, marking, reply := answer.1 }] }

end Tracking

/-- What a tracker is at. -/
inductive Task where
  | idle
  /-- It drains its queue, and has completed so many jobs. -/
  | draining (count : Nat)
  /-- It waits, and looks next whether a job is pending. -/
  | looking
  /-- It waits, and takes a result next. -/
  | receiving
  deriving DecidableEq

/-- What the tracker came back with from something that it was asked for. -/
inductive Return where
  | handled (outcome : Except Fault Bool)
  | drained (outcome : Except Fault Nat)
  | waited (outcome : Except Fault Unit)

/-- A tracker in use. -/
structure Session extends Tracking where
  queue : List JobResult := []
  /-- Has nobody the sending end of the queue any more? -/
  hungUp : Bool := false
  task : Task := .idle
  returns : List Return := []

/-- What can happen next. -/
inductive Turn where
  | send (result : JobResult)
  | hangUp
  /-- Somebody else makes a call. -/
  | interfere (caller : Nat) (marking : Marking)
  /-- The tracker is asked to handle a result. -/
  | handle (result : JobResult)
  | drain
  | waitForAll
  /-- The tracker goes on with what it is at. -/
  | goOn
  deriving DecidableEq

namespace Session

/-- A tracker that was just made. -/
def ofPackage (package : Package) : Session where
  tracker := { package }

/-- The tracker comes back. -/
def back (session : Session) (answer : Return) : Session :=
  { session with task := .idle, returns := session.returns ++ [answer] }

/-- The tracker is handed a result, so that those in `queue` are left, and then is
at `task`. -/
def take (session : Session) (result : JobResult) (queue : List JobResult)
    (task : Task) : Session :=
  { session with toTracking := session.hand result, queue, task }

/-- The tracker takes its next step. -/
def goOn (session : Session) : Session :=
  match session.task, session.queue with
  | .idle, _ => session
  | .draining count, [] => session.back (.drained (.ok count))
  | .draining count, result :: queue =>
      match session.tracker.handle result with
      | .error fault =>
          (session.take result queue .idle).back (.drained (.error fault))
      | .ok handled =>
          session.take result queue (.draining (count + handled.completed.toNat))
  | .looking, _ =>
      if session.tracker.isFinished then session.back (.waited (.ok ()))
      else { session with task := .receiving }
  | .receiving, [] =>
      if session.hungUp then
        session.back
          (.waited (.error (.channelClosed session.tracker.package.pendingCount)))
      else session
  | .receiving, result :: queue =>
      match session.tracker.handle result with
      | .error fault => (session.take result queue .idle).back (.waited (.error fault))
      | .ok _ => session.take result queue .looking

/-- One turn.  Nobody sends who has no sending end, and a tracker that is at
something is not asked for anything else. -/
def turn (session : Session) : Turn → Session
  | .send result =>
      if session.hungUp then session
      else { session with queue := session.queue ++ [result] }
  | .hangUp => { session with hungUp := true }
  | .interfere caller marking =>
      { session with toTracking := session.interfere caller marking }
  | .handle result =>
      match session.task with
      | .idle =>
          (session.take result session.queue .idle).back
            (.handled ((session.tracker.handle result).map Handled.completed))
      | _ => session
  | .drain =>
      match session.task with
      | .idle => { session with task := .draining 0 }
      | _ => session
  | .waitForAll =>
      match session.task with
      | .idle => { session with task := .looking }
      | _ => session
  | .goOn => session.goOn

/-- The result that the tracker is handed in a turn, if any. -/
def incoming? (session : Session) : Turn → Option JobResult
  | .handle result => if session.task = .idle then some result else none
  | .goOn =>
      match session.task with
      | .draining _ | .receiving => session.queue.head?
      | .idle | .looking => none
  | _ => none

/-- One turn after the other. -/
def play (session : Session) : List Turn → Session
  | [] => session
  | turn :: turns => (session.turn turn).play turns

end Session

end WorkPackage
