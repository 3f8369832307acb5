import WorkPackage.Job
import WorkPackage.Profile
/-!
# Packages

A package is a profile with a fixed number of job slots.  Slots are filled from
the front; the filled ones and the free ones are kept apart, so that there are
never more filled slots than slots.
-/

namespace WorkPackage

/-- A profile and its job slots. -/
structure Package where
  profile : Profile := {}
  /-- The slots that were filled, in the order in which they were. -/
  filled : List Job := []
  /-- The slots that are still free. -/
  free : List Job := []
  deriving DecidableEq, Inhabited

namespace Package

/-- Every slot, the filled ones in front. -/
def jobs (package : Package) : List Job :=
  package.filled ++ package.free

def capacity (package : Package) : Nat :=
  package.filled.length + package.free.length

def added (package : Package) : Nat :=
  package.filled.length

def isFull (package : Package) : Bool :=
  package.free.isEmpty

/-- A slot without arguments that carries its own index as its number. -/
def emptySlot (index : Nat) : Job :=
  { number := Int32.ofNat index }

/-- A package with free slots only, for an executable. -/
def new (profile : Profile) (executable : String) (capacity : Nat) :
    Except Fault Package :=
  if maxFieldLength < capacity then
    .error (.refused (.tooManySlots capacity))
  else
    .ok
      { profile := { profile with executable }
        free := (List.range capacity).map emptySlot }

/-- Fills the first free slot. -/
def addJob (package : Package) (codes : List Char) (values : List Argument) :
    Except Fault Package :=
  match package.free with
  | [] => .error (.capacityExceeded package.capacity)
  | slot :: free =>
      (slot.setArguments codes values).map fun job =>
        { package with filled := package.filled ++ [job], free }

/-- The first job with a number, among filled and free slots. -/
def jobByNumber? (package : Package) (number : Int32) : Option Job :=
  package.jobs.find? fun job => job.number = number

/-- The number of slots whose job is not completed. -/
def remainingCount (package : Package) : Nat :=
  package.jobs.countP fun job => !job.completed

/-- The filled slots whose job is not completed. -/
def pendingJobs (package : Package) : List Job :=
  package.filled.filter fun job => !job.completed

def pendingCount (package : Package) : Nat :=
  package.pendingJobs.length

/-- Completes the first job with a number.  Answers whether the flag was clear
before, or nothing if no job has the number. -/
def completeFirst (number : Int32) : List Job → Option (Bool × List Job)
  | [] => none
  | job :: jobs =>
      if job.number = number then
        some (!job.completed, job.complete :: jobs)
      else
        (completeFirst number jobs).map fun (flipped, jobs) =>
          (flipped, job :: jobs)

/-- Completes the first filled slot with a number. -/
def completeFilled? (package : Package) (number : Int32) :
    Option (Bool × Package) :=
  (completeFirst number package.filled).map fun (flipped, filled) =>
    (flipped, { package with filled })

/-- Completes the first slot with a number, filled or free.  Answers whether
this call set the flag. -/
def markCompleted (package : Package) (number : Int32) :
    Except Fault (Bool × Package) :=
  match package.completeFilled? number with
  | some answer => .ok answer
  | none =>
      match completeFirst number package.free with
      | some (flipped, free) => .ok (flipped, { package with free })
      | none => .error (.unknownJob number)

/-- Completes the slot at an index.  Answers whether this call set the flag, or
nothing if there is no such slot. -/
def markSlot? (package : Package) (index : Nat) : Option (Bool × Package) :=
  (package.jobs[index]?).map fun job =>
    (!job.completed,
      { package with
        filled := package.filled.modify index Job.complete
        free :=
          if index < package.added then package.free
          else package.free.modify (index - package.added) Job.complete })

/-- A package of its own, with a copy of each slot. -/
def copy (package : Package) : Package where
  profile := package.profile
  filled := package.filled.map Job.copy
  free := package.free.map Job.copy

end Package

end WorkPackage
