/-!
# Progress events

What is reported while a package is filled or run, in the order in which it
happens.
-/

namespace WorkPackage

/-- One step of the work on a package. -/
inductive Event where
  /-- Work on so many jobs begins. -/
  | packageStart (total : Nat)
  /-- A slot was filled with the job of that number. -/
  | jobAdded (number : Int32)
  /-- The job of that number was completed by a result. -/
  | jobCompleted (number : Int32)
  /-- A result for an already completed job was dropped. -/
  | duplicateIgnored (number : Int32)
  /-- All work is done. -/
  | packageFinish
  deriving DecidableEq, Repr

namespace Event

/-- What is told to people about an event that is not counted, if anything. -/
def remark? : Event → Option String
  | duplicateIgnored number =>
      some s!"Ignored duplicate result for job {number.toInt}"
  | _ => none

end Event

end WorkPackage
