import WorkPackage.Job
/-!
# Lives of jobs

A job is filled, changed slot by slot, marked and copied, in any order, and now and
then its slots are made anew.  Its life is what it was asked for, each request with
what it answered and with the job before and after it.
-/

namespace WorkPackage

/-- How far along the life of a job a state is. -/
def JobState.rank : JobState → Nat
  | created => 0
  | populated => 1
  | completed => 2

instance : LE JobState where
  le earlier later := earlier.rank ≤ later.rank

namespace Job

/-- What can be asked of a job. -/
inductive Request where
  /-- Make the slots anew. -/
  | reset (count : Nat)
  /-- Fill every slot. -/
  | fill (codes : List Char) (values : List Argument)
  /-- Put a value into one slot. -/
  | assign (index : Nat) (value : Argument)
  /-- Set the completion flag. -/
  | mark
  /-- Go on with a copy. -/
  | copy
  deriving DecidableEq

/-- What a job answers. -/
inductive Answer where
  | done
  | filled (outcome : Except Fault Unit)
  /-- Is there such a slot? -/
  | assigned (found : Bool)
  /-- Was the flag clear before? -/
  | marked (flipped : Bool)

/-- A request that was served. -/
structure Served where
  before : Job
  request : Request
  answer : Answer
  after : Job

/-- What a job answers to a request, and the job after it. -/
def reply (job : Job) : Request → Answer × Job
  | .reset count => (.done, job.reset count)
  | .fill codes values =>
      let filling := job.fill codes values
      (.filled filling.2, filling.1)
  | .assign index value =>
      (.assigned (index < job.arguments.length), job.setArgument index value)
  | .mark =>
      let marking := job.mark
      (.marked marking.1, marking.2)
  | .copy => (.done, job.copy)

def serve (job : Job) (request : Request) : Served where
  before := job
  request
  answer := (job.reply request).1
  after := (job.reply request).2

/-- One request after the other. -/
def life (job : Job) : List Request → List Served
  | [] => []
  | request :: later =>
      let served := job.serve request
      served :: served.after.life later

/-- The job as it was made, and then after each request. -/
def stages (job : Job) (requests : List Request) : List Job :=
  job :: (job.life requests).map Served.after

/-- The job after all requests. -/
def last (job : Job) (requests : List Request) : Job :=
  (job.stages requests).getLast (List.cons_ne_nil _ _)

/-- Does a request empty no slot? -/
def Request.Onward : Request → Prop
  | reset _ => False
  | assign _ value => value.isSet = true
  | fill _ _ | mark | copy => True

instance : DecidablePred Request.Onward
  | .reset _ => .isFalse id
  | .assign _ value => inferInstanceAs (Decidable (value.isSet = true))
  | .fill _ _ | .mark | .copy => .isTrue trivial

namespace Served

/-- Did the number of slots change? -/
def resizes (served : Served) : Bool :=
  served.after.arguments.length ≠ served.before.arguments.length

/-- Was the job told that it has set the flag? -/
def flips (served : Served) : Bool :=
  match served.answer with
  | .marked flipped => flipped
  | _ => false

end Served

end Job

end WorkPackage
