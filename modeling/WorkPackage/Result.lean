import WorkPackage.Number.Binary
/-!
# Job results

A result is what a worker reports for one job: the job's number and a row of
single-width floating-point words.
-/

namespace WorkPackage

/-- The data that a worker produced for the job with a number. -/
structure JobResult where
  number : Int32 := 0
  data : List UInt32 := []
  deriving DecidableEq, Inhabited

namespace JobResult

/-- Are two rows of words equal, word by word, as numbers? -/
def sameData : List UInt32 → List UInt32 → Bool
  | [], [] => true
  | left :: lefts, right :: rights =>
      Binary.sameNumber .single left.toNat right.toNat && sameData lefts rights
  | _, _ => false

def sameValue (left right : JobResult) : Bool :=
  left.number = right.number && sameData left.data right.data

end JobResult

end WorkPackage
