import WorkPackage.Population
import WorkPackage.Completion
import WorkPackage.Wire.Frame
/-!
# Histories

A package lives through a history of operations.  One that is refused leaves the
package as it is, except that a batch keeps the rows before the one that was
refused.
-/

namespace WorkPackage

/-- What can be done to a package. -/
inductive Operation where
  /-- Makes the package anew. -/
  | reset (profile : Profile) (executable : String) (capacity : Nat)
  | add (codes : List Char) (values : List Argument)
  | populate (codes : List Char) (rows : List (List Argument))
  /-- Completes the first job with a number. -/
  | mark (number : Int32)
  /-- Completes the job of a slot, if there is such a slot. -/
  | markSlot (index : Nat)
  /-- Gives a result to a tracker of the package, which has kept some before. -/
  | handle (kept : List JobResult) (result : JobResult)
  /-- Goes on with a copy. -/
  | copy
  /-- Goes on with the package that is read from the frame of this one. -/
  | reload
  deriving DecidableEq

/-- What an operation did: the package after it, and whether it was refused. -/
structure Performed where
  package : Package
  outcome : Except Fault Unit

/-- The package that an operation yields, or the one before it when it is
refused. -/
def Performed.orKept (package : Package) : Except Fault Package → Performed
  | .ok next => { package := next, outcome := .ok () }
  | .error fault => { package, outcome := .error fault }

namespace Package

def perform (package : Package) : Operation → Performed
  | .reset profile executable capacity =>
      .orKept package (Package.new profile executable capacity)
  | .add codes values => .orKept package (package.addJob codes values)
  | .populate codes rows =>
      let batch := package.populate codes rows
      { package := batch.package, outcome := batch.outcome.map fun _ => () }
  | .mark number =>
      .orKept package ((package.markCompleted number).map Prod.snd)
  | .markSlot index =>
      .orKept package
        (.ok (((package.markSlot? index).map Prod.snd).getD package))
  | .handle kept result =>
      .orKept package
        ((Tracker.handle { package, results := kept } result).map fun handled =>
          handled.tracker.package)
  | .copy => .orKept package (.ok package.copy)
  | .reload => .orKept package (package.frame >>= Package.readFrame.front)

def performAll (package : Package) : List Operation → Package
  | [] => package
  | operation :: later => (package.perform operation).package.performAll later

end Package

end WorkPackage
