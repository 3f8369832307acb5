/-!
# Run profiles

A profile says which executable a package is for and how copies of the worker
are started.  A package carries it along without interpreting it.
-/

namespace WorkPackage

/-- One way to start copies of the worker. -/
structure RunCommand where
  command : String
  copies : Int32
  threads : Int32 := 1
  overridesCopies : Bool := false
  overriddenCopies : Int32 := 0
  delay : Int32 := 0
  deriving DecidableEq, Inhabited

namespace RunCommand

def effectiveCopies (command : RunCommand) : Int32 :=
  if command.overridesCopies then command.overriddenCopies else command.copies

end RunCommand

/-- The executable and the ways to start it. -/
structure Profile where
  name : String := ""
  executable : String := ""
  guiAddress : String := ""
  controllerAddress : String := ""
  commands : List RunCommand := []
  deriving DecidableEq, Inhabited

namespace Profile

/-- The copies of all commands together.  They are counted in a word of 32 bits, as those
of one command are, so a count that is too large wraps around. -/
def totalCopies (profile : Profile) : Int :=
  (profile.commands.map RunCommand.effectiveCopies).sum.toInt

/-- Up to a multiple of 2³² it is the number of copies. -/
theorem totalCopies_eq_bmod (profile : Profile) :
    profile.totalCopies =
      (profile.commands.foldr (fun (command : RunCommand) total =>
        command.effectiveCopies.toInt + total) 0).bmod Int32.size := by
  rw [totalCopies]
  induction profile.commands with
  | nil => rfl
  | cons command commands induction =>
      rw [List.map_cons, List.sum_cons, Int32.toInt_add, induction, List.foldr_cons]
      exact Int.add_bmod_bmod

example : totalCopies
    { commands := [{ command := "", copies := 2147483647 },
        { command := "", copies := 2147483647 }] } = -2 :=
  rfl

end Profile

end WorkPackage
