import WorkPackage.Completion
/-!
# Callers

Several callers mark jobs of one package at the same time: by their numbers, by
their slots, or with results for trackers of theirs.  A call first looks for its
slot, for which it reads nothing but job numbers, and then swaps the flag of that
slot in one atomic step.  In between, others may get ahead of it.  A schedule
says who has the next turn; all schedules are taken into account.

As long as a package is shared, nothing of it but the flags is written, and those
only by such swaps; so what a run comes to depends on the order of the swaps alone,
and to count flags is taken to be one step.
-/

namespace WorkPackage

/-- A call that marks a job. -/
inductive Marking where
  /-- The first job with a number. -/
  | byNumber (number : Int32)
  /-- The job of a slot. -/
  | bySlot (index : Nat)
  /-- The job of a result that is given to a tracker, which has kept some
  before. -/
  | byResult (kept : List JobResult) (result : JobResult)
  deriving DecidableEq

/-- What a call comes back with. -/
inductive Reply where
  /-- There is no such slot, and so no job to call. -/
  | absent
  | refused (fault : Fault)
  /-- A flag was swapped, which was clear before if it `flipped`. -/
  | swapped (flipped : Bool)
  deriving DecidableEq

/-- A call that was answered. -/
structure Answered where
  caller : Nat
  marking : Marking
  reply : Reply
  deriving DecidableEq

/-- The first filled slot whose job has a number. -/
def Package.filledSlot? (package : Package) (number : Int32) : Option Nat :=
  package.filled.findIdx? fun job => job.number = number

namespace Marking

/-- The slot that a call looks for: the first one with the number, for a result
only among the filled ones. -/
def target? (package : Package) : Marking → Option Nat
  | .byNumber number => package.jobs.findIdx? fun job => job.number = number
  | .bySlot index => if index < package.capacity then some index else none
  | .byResult _ result => package.filledSlot? result.number

/-- What a call comes back with if there is no slot for it. -/
def refusal : Marking → Reply
  | .byNumber number => .refused (.unknownJob number)
  | .bySlot _ => .absent
  | .byResult _ result => .refused (.unknownJob result.number)

end Marking

namespace Package

/-- What a call comes back with when nobody gets ahead of it, and the package
after it. -/
def call (package : Package) : Marking → Reply × Package
  | .byNumber number =>
      match package.markCompleted number with
      | .ok (flipped, next) => (.swapped flipped, next)
      | .error fault => (.refused fault, package)
  | .bySlot index =>
      match package.markSlot? index with
      | some (flipped, next) => (.swapped flipped, next)
      | none => (.absent, package)
  | .byResult kept result =>
      match Tracker.handle { package, results := kept } result with
      | .ok handled => (.swapped handled.completed, handled.tracker.package)
      | .error fault => (.refused fault, package)

/-- One call after the other. -/
def callEach (package : Package) : List Marking → List Reply × Package
  | [] => ([], package)
  | marking :: later =>
      let answer := package.call marking
      let answers := answer.2.callEach later
      (answer.1 :: answers.1, answers.2)

/-- Is there a completed job in a slot? -/
def isCompleted (package : Package) (slot : Nat) : Bool :=
  (package.jobs[slot]?).any Job.completed

end Package

namespace Answered

/-- Did the call set a flag? -/
def flips (answered : Answered) : Bool :=
  answered.reply = .swapped true

/-- Did the call set a flag in one of these slots? -/
def flipsIn (package : Package) (slots : Nat → Bool) (answered : Answered) : Bool :=
  answered.flips && (answered.marking.target? package).any slots

end Answered

/-- Where a caller is. -/
inductive Caller where
  /-- It has these calls to make. -/
  | between (calls : List Marking)
  /-- It has found the slot for a call, and has others to make after that. -/
  | within (marking : Marking) (slot : Nat) (calls : List Marking)
  deriving DecidableEq

/-- The calls that were not answered. -/
def Caller.calls : Caller → List Marking
  | between calls => calls
  | within marking _ calls => marking :: calls

/-- A package and its callers, with what was answered so far, in that order. -/
structure Traffic where
  package : Package
  callers : List Caller
  answers : List Answered := []
  deriving DecidableEq

namespace Traffic

/-- Callers that are about to call. -/
def ofCalls (package : Package) (calls : List (List Marking)) : Traffic where
  package
  callers := calls.map .between

/-- The calls of a caller that were not answered. -/
def callsOf (traffic : Traffic) (caller : Nat) : List Marking :=
  (traffic.callers[caller]?).elim [] Caller.calls

/-- The calls of a caller that were answered. -/
def answeredOf (traffic : Traffic) (caller : Nat) : List Marking :=
  (traffic.answers.filter fun answered => answered.caller = caller).map
    Answered.marking

/-- A call is answered, which leaves the caller with the others. -/
def answer (traffic : Traffic) (caller : Nat) (marking : Marking)
    (calls : List Marking) (reply : Reply) (package : Package) : Traffic where
  package
  callers := traffic.callers.set caller (.between calls)
  answers := traffic.answers ++ [{ caller, marking, reply }]

/-- A caller has a turn.  If it has no call to make, it lets it pass. -/
def turn (traffic : Traffic) (caller : Nat) : Traffic :=
  match traffic.callers[caller]? with
  | none | some (.between []) => traffic
  | some (.between (marking :: calls)) =>
      match marking.target? traffic.package with
      | none => traffic.answer caller marking calls marking.refusal traffic.package
      | some slot =>
          { traffic with
            callers := traffic.callers.set caller (.within marking slot calls) }
  | some (.within marking slot calls) =>
      match traffic.package.markSlot? slot with
      | none => traffic
      | some (flipped, next) =>
          traffic.answer caller marking calls (.swapped flipped) next

/-- One turn after the other, each by the caller that the schedule names. -/
def play (traffic : Traffic) : List Nat → Traffic
  | [] => traffic
  | caller :: schedule => (traffic.turn caller).play schedule

end Traffic

end WorkPackage
