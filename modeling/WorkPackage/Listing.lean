import WorkPackage.Wire.Frame
/-!
# Listings

A listing shows what a package holds: its profile, how many of its slots are
filled and how large it is, and on demand a line for every slot.
-/

namespace WorkPackage

namespace JobState

/-- The word for a slot in a listing, filled up to the common width. -/
def label : JobState → List Char
  | created => "empty   ".toList
  | populated => "pending ".toList
  | completed => "done    ".toList

end JobState

namespace Package

/-- One line for a command. -/
def commandLine (command : RunCommand) : List Char :=
  "  - ".toList ++ command.command.toList ++ " x".toList ++
    Decimal.ofInt command.effectiveCopies.toInt ++ " (".toList ++
    Decimal.ofInt command.threads.toInt ++ " threads each)".toList

def slotLine (job : Job) : List Char :=
  "  ".toList ++ job.state.label ++ ' ' :: job.render

/-- The lines about the package as a whole. -/
def summaryLines (package : Package) : List (List Char) :=
  let profile := package.profile
  ["Profile:      ".toList ++ profile.name.toList,
    "Executable:   ".toList ++ profile.executable.toList,
    "GUI:          ".toList ++ profile.guiAddress.toList,
    "Controller:   ".toList ++ profile.controllerAddress.toList,
    "Commands:     ".toList ++ Decimal.digits profile.commands.length ++
      " (".toList ++ Decimal.ofInt profile.totalCopies ++ " copies)".toList] ++
  profile.commands.map commandLine ++
  ["Jobs:         ".toList ++ Decimal.digits package.added ++ '/' ::
      Decimal.digits package.capacity ++ " added, ".toList ++
      Decimal.digits package.remainingCount ++ " remaining".toList,
    "Encoded size: ".toList ++ Decimal.digits package.encodedSize ++
      " bytes".toList]

/-- The listing; every line ends with a line feed. -/
def listing (package : Package) (withJobs : Bool) : List Char :=
  let slots := if withJobs then package.jobs.map slotLine else []
  (package.summaryLines ++ slots).flatMap fun line => line ++ ['\n']

end Package

end WorkPackage
