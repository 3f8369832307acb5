import WorkPackage.Proofs.Marking

/-!
# The order of reports

Results for different jobs can be taken in either order.  Of several for one job
the first completes it, whichever this is, and the others are dropped.  So the
order in which a queue is drained shows in nothing but the data that are kept for
a job, and not even there if each job has one result.
-/

namespace WorkPackage

variable {number : Int32} {jobs after : List Job} {flipped : Bool}

namespace Package

section First

variable {head : Job}

theorem completeFirst_head (names : head.number = number) :
    completeFirst number (head :: jobs) =
      some (!head.completed, head.complete :: jobs) :=
  if_pos names

theorem completeFirst_tail (apart : head.number ≠ number)
    (completed : completeFirst number jobs = some (flipped, after)) :
    completeFirst number (head :: jobs) = some (flipped, head :: after) := by
  rw [completeFirst, if_neg apart, completed]
  rfl

theorem completeFirst_cons_cases
    (completed : completeFirst number (head :: jobs) = some (flipped, after)) :
    (head.number = number ∧ flipped = !head.completed ∧
      after = head.complete :: jobs) ∨
    (head.number ≠ number ∧ ∃ later,
      completeFirst number jobs = some (flipped, later) ∧ after = head :: later) := by
  by_cases names : head.number = number
  · rw [completeFirst_head names] at completed
    cases completed
    exact .inl ⟨names, rfl, rfl⟩
  · rw [completeFirst, if_neg names] at completed
    obtain ⟨⟨_, later⟩, laterCompleted, same⟩ := Option.map_eq_some_iff.mp completed
    cases same
    exact .inr ⟨names, later, laterCompleted, rfl⟩

end First

/-- Completing a job once more changes nothing. -/
theorem completeFirst_again
    (completed : completeFirst number jobs = some (flipped, after)) :
    completeFirst number after = some (false, after) := by
  induction jobs generalizing after with
  | nil => contradiction
  | cons head jobs induction =>
      obtain ⟨names, -, rfl⟩ | ⟨apart, later, completedLater, rfl⟩ :=
        completeFirst_cons_cases completed
      · exact completeFirst_head names
      · exact completeFirst_tail apart (induction completedLater)

theorem completeFirst_unflipped
    (completed : completeFirst number jobs = some (false, after)) : after = jobs := by
  induction jobs generalizing after with
  | nil => contradiction
  | cons head jobs induction =>
      obtain ⟨-, flag, rfl⟩ | ⟨-, later, completedLater, rfl⟩ :=
        completeFirst_cons_cases completed
      · have set : head.completed = true := by simpa using flag.symm
        rw [Job.complete, ← set]
      · rw [induction completedLater]

/-- Jobs with different numbers are completed independently of each other. -/
theorem completeFirst_comm {first second : Int32} {firstFlipped secondFlipped : Bool}
    {firstAfter secondAfter : List Job} (apart : first ≠ second)
    (firstCompleted : completeFirst first jobs = some (firstFlipped, firstAfter))
    (secondCompleted : completeFirst second jobs = some (secondFlipped, secondAfter)) :
    ∃ both, completeFirst second firstAfter = some (secondFlipped, both) ∧
      completeFirst first secondAfter = some (firstFlipped, both) := by
  induction jobs generalizing firstAfter secondAfter with
  | nil => contradiction
  | cons head jobs induction =>
      obtain ⟨isFirst, rfl, rfl⟩ | ⟨notFirst, firstLater, completedFirst, rfl⟩ :=
        completeFirst_cons_cases firstCompleted
      · have notSecond : head.number ≠ second := isFirst ▸ apart
        obtain ⟨isSecond, -⟩ | ⟨-, later, completedLater, rfl⟩ :=
          completeFirst_cons_cases secondCompleted
        · exact absurd isSecond notSecond
        · exact ⟨head.complete :: later, completeFirst_tail notSecond completedLater,
            completeFirst_head isFirst⟩
      · obtain ⟨isSecond, rfl, rfl⟩ | ⟨notSecond, secondLater, completedSecond, rfl⟩ :=
          completeFirst_cons_cases secondCompleted
        · exact ⟨head.complete :: firstLater, completeFirst_head isSecond,
            completeFirst_tail notFirst completedFirst⟩
        · obtain ⟨both, firstBoth, secondBoth⟩ :=
            induction completedFirst completedSecond
          exact ⟨head :: both, completeFirst_tail notSecond firstBoth,
            completeFirst_tail notFirst secondBoth⟩

theorem completeFirst_numbers
    (completed : completeFirst number jobs = some (flipped, after)) :
    after.map Job.number = jobs.map Job.number := by
  induction jobs generalizing after with
  | nil => contradiction
  | cons head jobs induction =>
      obtain ⟨-, -, rfl⟩ | ⟨-, later, completedLater, rfl⟩ :=
        completeFirst_cons_cases completed
      · rfl
      · rw [List.map_cons, List.map_cons, induction completedLater]

theorem exists_completeFirst (known : number ∈ jobs.map Job.number) :
    ∃ flipped after, completeFirst number jobs = some (flipped, after) := by
  cases completed : completeFirst number jobs with
  | some answer => exact ⟨answer.1, answer.2, rfl⟩
  | none =>
      obtain ⟨job, member, names⟩ := List.mem_map.mp known
      exact absurd names (completeFirst_eq_none completed job member)

end Package

namespace Tracker

section Keeping

variable {first second : JobResult} {kept others : List JobResult}

/-- Where a result has its place depends on the numbers only. -/
theorem keep_numbers (sameNumber : first.number = second.number)
    (sameNumbers : kept.map JobResult.number = others.map JobResult.number) :
    (keep first kept).map JobResult.number =
      (keep second others).map JobResult.number := by
  induction kept generalizing others with
  | nil =>
      cases List.map_eq_nil_iff.mp sameNumbers.symm
      exact congrArg (fun number => [number]) sameNumber
  | cons result kept induction =>
      obtain ⟨other, later, rfl, same, laterSame⟩ :=
        List.map_eq_cons_iff.mp sameNumbers.symm
      rw [keep, keep, sameNumber, same]
      by_cases less : second.number < result.number
      · rw [if_pos less, if_pos less, List.map_cons, sameNumbers, sameNumber]
        rfl
      · rw [if_neg less, if_neg less]
        by_cases equal : second.number = result.number
        · rw [if_pos equal, if_pos equal, List.map_cons, List.map_cons, sameNumber,
            laterSame]
        · rw [if_neg equal, if_neg equal, List.map_cons, List.map_cons, same,
            induction laterSame.symm]

/-- Results with different numbers are kept independently of each other. -/
theorem keep_comm_of_lt (less : first.number < second.number)
    (kept : List JobResult) :
    keep first (keep second kept) = keep second (keep first kept) := by
  have notMore : ¬second.number < first.number := fun more =>
    Int32.lt_irrefl (Int32.lt_trans less more)
  have apart : second.number ≠ first.number := fun same =>
    Int32.lt_irrefl (same ▸ less)
  induction kept with
  | nil => simp only [keep, if_pos less, if_neg notMore, if_neg apart]
  | cons other others induction =>
      by_cases before : second.number < other.number
      · have firstBefore := Int32.lt_trans less before
        simp only [keep, if_pos before, if_pos less, if_pos firstBefore, if_neg notMore,
          if_neg apart]
      · by_cases equal : second.number = other.number
        · have firstBefore : first.number < other.number := equal ▸ less
          simp only [keep, if_neg before, if_pos equal, if_pos less, if_pos firstBefore,
            if_neg notMore, if_neg apart]
        · by_cases firstBefore : first.number < other.number
          · simp only [keep, if_neg before, if_neg equal, if_pos firstBefore,
              if_neg notMore, if_neg apart]
          · by_cases firstEqual : first.number = other.number
            · simp only [keep, if_neg before, if_neg equal, if_neg firstBefore,
                if_pos firstEqual, if_neg notMore, if_neg apart]
            · simp only [keep, if_neg before, if_neg equal, if_neg firstBefore,
                if_neg firstEqual, induction]

theorem keep_comm (apart : first.number ≠ second.number) (kept : List JobResult) :
    keep first (keep second kept) = keep second (keep first kept) := by
  by_cases less : first.number < second.number
  · exact keep_comm_of_lt less kept
  · have more := Int32.lt_of_le_of_ne (Int32.not_lt.mp less) (Ne.symm apart)
    exact (keep_comm_of_lt more kept).symm

end Keeping

section Handling

variable {tracker left right : Tracker} {result first second : JobResult}
  {filled : List Job} {handled : Handled}

/-- Does a result name a filled slot? -/
def Knows (tracker : Tracker) (result : JobResult) : Prop :=
  result.number ∈ tracker.package.filled.map Job.number

instance (tracker : Tracker) (result : JobResult) : Decidable (tracker.Knows result) :=
  inferInstanceAs (Decidable (_ ∈ _))

/-- The tracker that has taken a result, with the filled slots as they are then. -/
def taking (tracker : Tracker) (result : JobResult) (flipped : Bool)
    (filled : List Job) : Tracker where
  package := { tracker.package with filled }
  results := if flipped then keep result tracker.results else tracker.results

theorem handle_of_completeFirst
    (completed : Package.completeFirst result.number tracker.package.filled =
      some (flipped, filled)) :
    ∃ event, tracker.handle result =
      .ok { tracker := tracker.taking result flipped filled, event, completed := flipped } := by
  rw [handle, Package.completeFilled?, completed]
  cases flipped with
  | true => exact ⟨_, rfl⟩
  | false =>
      cases Package.completeFirst_unflipped completed
      exact ⟨_, rfl⟩

theorem handle_of_knows (knows : tracker.Knows result) :
    ∃ flipped filled event,
      Package.completeFirst result.number tracker.package.filled =
        some (flipped, filled) ∧
      tracker.handle result =
        .ok { tracker := tracker.taking result flipped filled, event,
              completed := flipped } := by
  obtain ⟨flipped, filled, completed⟩ := Package.exists_completeFirst knows
  obtain ⟨event, handles⟩ := handle_of_completeFirst completed
  exact ⟨flipped, filled, event, completed, handles⟩

theorem Knows.taking (knows : tracker.Knows result)
    (completed : Package.completeFirst number tracker.package.filled =
      some (flipped, filled)) (other : JobResult) :
    (tracker.taking other flipped filled).Knows result := by
  have numbers := Package.completeFirst_numbers completed
  rw [Knows] at knows ⊢
  exact numbers.symm ▸ knows

/-- Two trackers of one package that keep results for the same jobs. -/
structure Alike (left right : Tracker) : Prop where
  package : left.package = right.package
  numbers : left.results.map JobResult.number = right.results.map JobResult.number

theorem Alike.of_eq (same : left = right) : left.Alike right := by
  cases same
  exact ⟨rfl, rfl⟩

theorem Alike.rfl : tracker.Alike tracker :=
  .of_eq (Eq.refl tracker)

theorem Alike.trans {last : Tracker} (alike : left.Alike right)
    (next : right.Alike last) : left.Alike last where
  package := alike.package.trans next.package
  numbers := alike.numbers.trans next.numbers

theorem Alike.taking (alike : left.Alike right)
    (sameNumber : first.number = second.number) (flipped : Bool) (filled : List Job) :
    (left.taking first flipped filled).Alike (right.taking second flipped filled) where
  package := by rw [Tracker.taking, Tracker.taking, alike.package]
  numbers := by
    cases flipped with
    | true => exact keep_numbers sameNumber alike.numbers
    | false => exact alike.numbers

theorem Knows.handle (knows : tracker.Knows second)
    (handles : tracker.handle first = .ok handled) : handled.tracker.Knows second := by
  cases completed : Package.completeFirst first.number tracker.package.filled with
  | none =>
      rw [Tracker.handle, Package.completeFilled?, completed] at handles
      contradiction
  | some answer =>
      obtain ⟨event, taken⟩ := handle_of_completeFirst completed
      cases handles.symm.trans taken
      exact knows.taking completed first

/-- The same number completes the same job of trackers that are alike. -/
theorem Alike.handle (alike : left.Alike right) (knows : left.Knows result) :
    ∃ one other, left.handle result = .ok one ∧ right.handle result = .ok other ∧
      one.tracker.Alike other.tracker ∧ one.completed = other.completed := by
  obtain ⟨flipped, filled, event, completed, handles⟩ := handle_of_knows knows
  have otherCompleted := completed
  rw [alike.package] at otherCompleted
  obtain ⟨otherEvent, otherHandles⟩ := handle_of_completeFirst otherCompleted
  exact ⟨_, _, handles, otherHandles, alike.taking (Eq.refl _) flipped filled, Eq.refl _⟩

/-- Two results can be taken in either order.  The trackers they lead to are
alike, and the same if the results are for different jobs. -/
structure Exchanged (tracker : Tracker) (first second : JobResult)
    (one two other three : Handled) : Prop where
  takesFirst : tracker.handle first = .ok one
  thenSecond : one.tracker.handle second = .ok two
  takesSecond : tracker.handle second = .ok other
  thenFirst : other.tracker.handle first = .ok three
  counted : one.completed.toNat + two.completed.toNat =
    other.completed.toNat + three.completed.toNat
  alike : two.tracker.Alike three.tracker
  equal : first.number ≠ second.number → two.tracker = three.tracker

theorem exchanged_of_ne (apart : first.number ≠ second.number)
    (knowsFirst : tracker.Knows first) (knowsSecond : tracker.Knows second) :
    ∃ one two other three, tracker.Exchanged first second one two other three := by
  obtain ⟨flipped, filled, event, completed, handles⟩ := handle_of_knows knowsFirst
  obtain ⟨otherFlipped, otherFilled, otherEvent, otherCompleted, otherHandles⟩ :=
    handle_of_knows knowsSecond
  obtain ⟨both, behindFirst, behindSecond⟩ :=
    Package.completeFirst_comm apart completed otherCompleted
  have same : (tracker.taking first flipped filled).taking second otherFlipped both =
      (tracker.taking second otherFlipped otherFilled).taking first flipped both := by
    cases flipped with
    | false => rfl
    | true =>
        cases otherFlipped with
        | false => rfl
        | true => simp only [taking, if_true, keep_comm apart]
  obtain ⟨twoEvent, twoHandles⟩ :
      ∃ event, (tracker.taking first flipped filled).handle second = .ok _ :=
    handle_of_completeFirst behindFirst
  obtain ⟨threeEvent, threeHandles⟩ :
      ∃ event, (tracker.taking second otherFlipped otherFilled).handle first = .ok _ :=
    handle_of_completeFirst behindSecond
  exact ⟨_, _, _, _,
    { takesFirst := handles
      thenSecond := twoHandles
      takesSecond := otherHandles
      thenFirst := threeHandles
      counted := Nat.add_comm _ _
      alike := .of_eq same
      equal := fun _ => same }⟩

/-- The first of two results for one job decides, and the second changes nothing. -/
theorem exchanged_of_eq (same : first.number = second.number)
    (knows : tracker.Knows first) :
    ∃ one two other three, tracker.Exchanged first second one two other three := by
  obtain ⟨flipped, filled, event, completed, handles⟩ := handle_of_knows knows
  have again := Package.completeFirst_again completed
  have otherCompleted := completed
  have otherAgain := again
  rw [same] at otherCompleted again
  obtain ⟨otherEvent, otherHandles⟩ := handle_of_completeFirst otherCompleted
  obtain ⟨twoEvent, twoHandles⟩ :
      ∃ event, (tracker.taking first flipped filled).handle second = .ok _ :=
    handle_of_completeFirst again
  obtain ⟨threeEvent, threeHandles⟩ :
      ∃ event, (tracker.taking second flipped filled).handle first = .ok _ :=
    handle_of_completeFirst otherAgain
  have alike : (tracker.taking first flipped filled).Alike
      (tracker.taking second flipped filled) := Alike.rfl.taking same flipped filled
  exact ⟨_, _, _, _,
    { takesFirst := handles
      thenSecond := twoHandles
      takesSecond := otherHandles
      thenFirst := threeHandles
      counted := rfl
      alike := ⟨alike.package, alike.numbers⟩
      equal := fun apart => absurd same apart }⟩

theorem exists_exchanged (knowsFirst : tracker.Knows first)
    (knowsSecond : tracker.Knows second) :
    ∃ one two other three, tracker.Exchanged first second one two other three := by
  by_cases same : first.number = second.number
  · exact exchanged_of_eq same knowsFirst
  · exact exchanged_of_ne same knowsFirst knowsSecond

end Handling

section Draining

variable {tracker left right : Tracker} {result : JobResult}
  {queue others : List JobResult} {handled : Handled}

theorem drain_alike (alike : left.Alike right) (queue : List JobResult)
    (known : ∀ result ∈ queue, left.Knows result) :
    (∃ count, (left.drain queue).outcome = .ok count ∧
      (right.drain queue).outcome = .ok count) ∧
    (left.drain queue).tracker.Alike (right.drain queue).tracker := by
  induction queue generalizing left right with
  | nil => exact ⟨⟨0, rfl, rfl⟩, alike⟩
  | cons result queue induction =>
      obtain ⟨knows, laterKnown⟩ := List.forall_mem_cons.mp known
      obtain ⟨one, other, handles, otherHandles, next, same⟩ := alike.handle knows
      obtain ⟨⟨count, counted, otherCounted⟩, last⟩ := induction next
        fun later member => (laterKnown later member).handle handles
      rw [drain_of_ok handles, drain_of_ok otherHandles]
      refine ⟨⟨count + one.completed.toNat, ?_, ?_⟩, last⟩
      · rw [counted]
        rfl
      · rw [otherCounted, same]
        rfl

/-- Two ways of draining came to the same; the trackers are even equal if some
condition holds. -/
structure Agree (condition : Prop) (one other : Progress Nat) : Prop where
  counted : ∃ count, one.outcome = .ok count ∧ other.outcome = .ok count
  alike : one.tracker.Alike other.tracker
  equal : condition → one.tracker = other.tracker

theorem drain_perm (permuted : queue.Perm others) (tracker : Tracker)
    (known : ∀ result ∈ queue, tracker.Knows result) :
    Agree (queue.map JobResult.number).Nodup (tracker.drain queue)
      (tracker.drain others) := by
  induction permuted generalizing tracker with
  | nil => exact ⟨⟨0, rfl, rfl⟩, Alike.rfl, fun _ => rfl⟩
  | cons result _ induction =>
      obtain ⟨knows, laterKnown⟩ := List.forall_mem_cons.mp known
      obtain ⟨handled, _, handles, -⟩ := Alike.rfl.handle knows
      have rest := induction handled.tracker
        fun later member => (laterKnown later member).handle handles
      obtain ⟨count, counted, otherCounted⟩ := rest.counted
      rw [drain_of_ok handles, drain_of_ok handles]
      exact
        { counted := by
            refine ⟨count + handled.completed.toNat, ?_, ?_⟩
            · rw [counted]
              rfl
            · rw [otherCounted]
              rfl
          alike := rest.alike
          equal := fun once => rest.equal (List.nodup_cons.mp once).2 }
  | swap second first queue =>
      obtain ⟨knowsFirst, bothKnown⟩ := List.forall_mem_cons.mp known
      obtain ⟨knowsSecond, laterKnown⟩ := List.forall_mem_cons.mp bothKnown
      obtain ⟨one, two, other, three, exchanged⟩ :=
        exists_exchanged knowsFirst knowsSecond
      obtain ⟨⟨count, counted, otherCounted⟩, last⟩ :=
        drain_alike exchanged.alike queue fun later member =>
          ((laterKnown later member).handle exchanged.takesFirst).handle
            exchanged.thenSecond
      have total := exchanged.counted
      rw [drain_of_ok exchanged.takesFirst, drain_of_ok exchanged.thenSecond,
        drain_of_ok exchanged.takesSecond, drain_of_ok exchanged.thenFirst]
      exact
        { counted := by
            refine ⟨count + two.completed.toNat + one.completed.toNat, ?_, ?_⟩
            · rw [counted]
              rfl
            · rw [otherCounted]
              have same : count + three.completed.toNat + other.completed.toNat =
                  count + two.completed.toNat + one.completed.toNat := by
                omega
              exact congrArg Except.ok same
          alike := last
          equal := by
            intro once
            have apart : first.number ≠ second.number := by
              simp only [List.map_cons, List.nodup_cons, List.mem_cons, not_or] at once
              exact fun same => once.1.1 same
            rw [exchanged.equal apart] }
  | trans permuted _ firstInduction secondInduction =>
      have first := firstInduction tracker known
      have second := secondInduction tracker
        fun result member => known result (permuted.symm.subset member)
      have once := (permuted.map JobResult.number).nodup_iff
      obtain ⟨count, counted, middle⟩ := first.counted
      obtain ⟨_, sameMiddle, otherCounted⟩ := second.counted
      cases middle.symm.trans sameMiddle
      exact
        { counted := ⟨count, counted, otherCounted⟩
          alike := first.alike.trans second.alike
          equal := fun nodup => (first.equal nodup).trans (second.equal (once.mp nodup)) }

theorem handle_ascending (handles : tracker.handle result = .ok handled)
    (ascending : tracker.results.Pairwise (·.number < ·.number)) :
    handled.tracker.results.Pairwise (·.number < ·.number) := by
  rw [handle] at handles
  split at handles
  · contradiction
  · cases handles
    exact keep_ascending ascending
  · cases handles
    exact ascending

theorem drain_ascending (tracker : Tracker) (queue : List JobResult)
    (ascending : tracker.results.Pairwise (·.number < ·.number)) :
    (tracker.drain queue).tracker.results.Pairwise (·.number < ·.number) := by
  induction queue generalizing tracker with
  | nil => exact ascending
  | cons result queue induction =>
      cases handles : tracker.handle result with
      | error fault =>
          rw [drain, handles]
          exact ascending
      | ok handled =>
          rw [drain_of_ok handles]
          exact induction handled.tracker (handle_ascending handles ascending)

end Draining

end Tracker

/-- The order of the results in a queue does not matter.  Draining it completes the
same jobs and keeps results with the same numbers, in ascending order; and if no
two of them are for one job, then it keeps the same results. -/
theorem drain_does_not_depend_on_order {tracker : Tracker}
    {queue reordered : List JobResult} (permuted : queue.Perm reordered)
    (known : ∀ result ∈ queue, tracker.Knows result) :
    let one := tracker.drain queue
    let other := tracker.drain reordered
    (∃ count, one.outcome = .ok count ∧ other.outcome = .ok count) ∧
    one.tracker.package = other.tracker.package ∧
    one.tracker.isFinished = other.tracker.isFinished ∧
    one.tracker.results.map JobResult.number =
      other.tracker.results.map JobResult.number ∧
    ((queue.map JobResult.number).Nodup →
      one.tracker.results = other.tracker.results) ∧
    (tracker.results.Pairwise (·.number < ·.number) →
      one.tracker.results.Pairwise (·.number < ·.number) ∧
      other.tracker.results.Pairwise (·.number < ·.number)) := by
  intro one other
  have agree := Tracker.drain_perm permuted tracker known
  have samePackage := agree.alike.package
  refine ⟨agree.counted, samePackage, ?_, agree.alike.numbers, ?_, ?_⟩
  · rw [Tracker.isFinished, Tracker.isFinished, samePackage]
  · intro once
    exact congrArg Tracker.results (agree.equal once)
  · intro ascending
    exact ⟨tracker.drain_ascending queue ascending,
      tracker.drain_ascending reordered ascending⟩

/-- A tracker of a pending job with a repeated number, and of a completed one. -/
def exampleTracker : Tracker where
  package :=
    { filled :=
        [{ number := 7 }, { number := 2, completed := true }, { number := -3 },
          { number := 7 }] }
  results := [{ number := 2, data := [8] }]

def exampleReports : List JobResult :=
  [{ number := 7, data := [1] }, { number := 2, data := [9] }, { number := -3 },
    { number := 7, data := [2] }]

/-- Backwards it is the other one of two results that is kept for a job, and
nothing else is different. -/
theorem example_reports_backwards :
    exampleReports.Perm exampleReports.reverse ∧
    (∀ result ∈ exampleReports, exampleTracker.Knows result) ∧
    let one := exampleTracker.drain exampleReports
    let other := exampleTracker.drain exampleReports.reverse
    one.tracker.package = other.tracker.package ∧
    one.tracker.results.map JobResult.number =
      other.tracker.results.map JobResult.number ∧
    one.tracker.results ≠ other.tracker.results := by
  have permuted : exampleReports.Perm exampleReports.reverse := by decide
  have known : ∀ result ∈ exampleReports, exampleTracker.Knows result := by decide
  obtain ⟨-, samePackage, -, sameNumbers, -⟩ :=
    drain_does_not_depend_on_order permuted known
  exact ⟨permuted, known, samePackage, sameNumbers, by decide⟩

end WorkPackage
