import WorkPackage.Package
import WorkPackage.Event
/-!
# Filling a package

A batch of rows that share their type codes is added to a package.  Whether the
batch fits is decided before the first row; after that the first row that does
not bind ends the batch, and the rows before it stay.
-/

namespace WorkPackage

/-- What a batch left behind: the package, the events in order, and the number
of rows or the fault. -/
structure Population where
  package : Package
  events : List Event
  outcome : Except Fault Nat

namespace Package

/-- Adds rows until one is refused.  Answers the package, the numbers of the
jobs that were added, and the fault if there was one. -/
def addJobs (package : Package) (codes : List Char) :
    List (List Argument) → Package × List Int32 × Option Fault
  | [] => (package, [], none)
  | row :: rows =>
      match package.addJob codes row with
      | .error fault => (package, [], some fault)
      | .ok grown =>
          let number := ((grown.filled.getLast?).map Job.number).getD 0
          let (last, numbers, fault) := grown.addJobs codes rows
          (last, number :: numbers, fault)

def populate (package : Package) (codes : List Char)
    (rows : List (List Argument)) : Population :=
  if package.free.length < rows.length then
    { package
      events := []
      outcome := .error (.capacityExceeded package.capacity) }
  else
    let (last, numbers, fault) := package.addJobs codes rows
    let started := .packageStart rows.length :: numbers.map Event.jobAdded
    match fault with
    | some fault => { package := last, events := started, outcome := .error fault }
    | none =>
        { package := last
          events := started ++ [.packageFinish]
          outcome := .ok rows.length }

end Package

end WorkPackage
