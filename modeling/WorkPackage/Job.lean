import WorkPackage.Signature
import WorkPackage.Argument.Printer
/-!
# Jobs

A job is a number, a row of argument slots and a completion flag.  Slots are
filled all at once or not at all, and the flag is only ever cleared by making
the slots anew.
-/

namespace WorkPackage

/-- One unit of work. -/
structure Job where
  number : Int32 := 0
  arguments : List Argument := []
  completed : Bool := false
  deriving DecidableEq, Inhabited

/-- How far a job has come. -/
inductive JobState where
  | created
  | populated
  | completed
  deriving DecidableEq, Repr

namespace Job

/-- The same job with `count` empty slots, not completed. -/
def reset (job : Job) (count : Nat) : Job :=
  { job with arguments := List.replicate count .unset, completed := false }

/-- A job with `count` empty slots. -/
def withSlots (count : Nat) : Job :=
  reset {} count

/-- Fills every slot.  A job without slots takes as many as there are codes;
otherwise the number of codes must be that of the slots. -/
def setArguments (job : Job) (codes : List Char) (values : List Argument) :
    Except Fault Job :=
  if job.arguments ≠ [] ∧ codes.length ≠ job.arguments.length then
    .error (.formatArity job.arguments.length codes.length)
  else
    (Signature.bind codes values).map fun arguments => { job with arguments }

/-- Fills the slots in place: the job after it, which stays as it was when this is
refused, and the fault if there was one. -/
def fill (job : Job) (codes : List Char) (values : List Argument) :
    Job × Except Fault Unit :=
  match job.setArguments codes values with
  | .ok filled => (filled, .ok ())
  | .error fault => (job, .error fault)

/-- Puts a value into the slot at an index; a job without that slot stays as it
is. -/
def setArgument (job : Job) (index : Nat) (value : Argument) : Job :=
  { job with arguments := job.arguments.set index value }

def signature (job : Job) : List Char :=
  Signature.ofArguments job.arguments

/-- Does the job have slots, and does each hold a value? -/
def isPopulated (job : Job) : Bool :=
  !job.arguments.isEmpty && job.arguments.all Argument.isSet

theorem isPopulated_iff (job : Job) : job.isPopulated = true ↔
    job.arguments ≠ [] ∧ ∀ argument ∈ job.arguments, argument ≠ .unset := by
  have set : ∀ argument : Argument, argument.isSet = true ↔ argument ≠ .unset := by
    intro argument
    rw [← Bool.not_eq_false, Ne, Argument.isSet_eq_false_iff]
  simp [isPopulated, set]

def complete (job : Job) : Job :=
  { job with completed := true }

/-- Completes the job: whether it was not completed before, and the job after it. -/
def mark (job : Job) : Bool × Job :=
  (!job.completed, job.complete)

/-- A job of its own with the same number, arguments and flag. -/
def copy (job : Job) : Job where
  number := job.number
  arguments := job.arguments
  completed := job.completed

def state (job : Job) : JobState :=
  if job.completed then .completed
  else if job.isPopulated then .populated
  else .created

/-- The job as it is shown to people: its number, its signature and its
arguments. -/
def render (job : Job) : List Char :=
  '#' :: Decimal.ofInt job.number.toInt ++ " [".toList ++ job.signature ++
    "] (".toList ++
    List.intercalate ", ".toList (job.arguments.map Argument.render) ++ [')']

end Job

end WorkPackage
