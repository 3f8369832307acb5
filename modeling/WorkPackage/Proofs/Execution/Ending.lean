import WorkPackage.Proofs.Completion

/-!
# Ends of schedules

Every turn uses up some of the work that is left, so that no schedule goes on for
ever; and as long as pool and tracker have not both come to an end, one of them
has a turn.  A job after the other is one of the schedules: what it leads to is
what running a package in order leads to.
-/

namespace WorkPackage

variable {worker : Worker} {package : Package} {first run next : Run}
  {schedule : List Action} {action : Action}

theorem Step.one (step : Step worker run action next) :
    Follows worker run [action] next :=
  .snoc .refl step

theorem Follows.trans {last : Run} {later : List Action}
    (before : Follows worker first schedule run)
    (after : Follows worker run later last) :
    Follows worker first (schedule ++ later) last := by
  induction after with
  | refl =>
      rw [List.append_nil]
      exact before
  | snoc _ step induction =>
      rw [← List.append_assoc]
      exact .snoc induction step

def Watch.turns : Watch → Nat
  | looking => 2
  | receiving => 1
  | ended _ => 0

/-- The number of turns that a run has left at most. -/
def Run.turns (run : Run) : Nat :=
  4 * run.waiting.length + 3 * run.running.length + 2 * run.queue.length +
    run.watch.turns

theorem length_erase_add_one {slot : Nat} {slots : List Nat} (inside : slot ∈ slots) :
    (slots.erase slot).length + 1 = slots.length := by
  rw [List.length_erase_of_mem inside,
    Nat.sub_add_cancel (List.length_pos_of_mem inside)]

/-- A job costs the pool two turns and the tracker two more. -/
theorem Step.turns_lt (step : Step worker run action next) :
    next.turns < run.turns := by
  cases step with
  | start waits =>
      have fewer := length_erase_add_one waits
      simp only [Run.turns, List.length_cons]
      omega
  | report runs _ _ =>
      have fewer := length_erase_add_one runs
      simp only [Run.turns, List.length_append, List.length_singleton]
      omega
  | fail runs _ _ =>
      have fewer := length_erase_add_one runs
      simp only [Run.turns]
      omega
  | abandon waits _ =>
      have fewer := length_erase_add_one waits
      simp only [Run.turns]
      omega
  | look looks _ =>
      simp only [Run.turns, looks, Watch.turns]
      omega
  | leave looks _ =>
      simp only [Run.turns, looks, Watch.turns]
      omega
  | receive waits queued _ =>
      simp only [Run.turns, waits, queued, Watch.turns, List.length_cons]
      omega
  | refuse waits queued _ =>
      simp only [Run.turns, waits, queued, Watch.turns, List.length_cons]
      omega
  | hangUp waits _ _ =>
      simp only [Run.turns, waits, Watch.turns]
      omega

theorem Follows.turns_le (follows : Follows worker first schedule run) :
    schedule.length + run.turns ≤ first.turns := by
  induction follows with
  | refl => exact Nat.le_of_eq (Nat.zero_add _)
  | snoc _ step induction =>
      have fewer := step.turns_lt
      rw [List.length_append, List.length_singleton]
      omega

/-- Does the pool only know of filled slots? -/
def Run.InRange (run : Run) : Prop :=
  ∀ slot ∈ run.waiting ++ run.running, slot < run.tracker.package.added

theorem Run.ofPackage_inRange (package : Package) :
    (Run.ofPackage package).InRange := by
  intro slot member
  obtain ⟨job, found, -⟩ := Package.mem_pendingSlots.mp
    (List.append_nil package.pendingSlots ▸ member)
  exact (List.getElem?_eq_some_iff.mp found).1

theorem Run.InRange.fewer (inRange : run.InRange)
    (fewer : (next.waiting ++ next.running).Sublist (run.waiting ++ run.running))
    (same : next.tracker = run.tracker) : next.InRange := by
  intro slot member
  rw [same]
  exact inRange slot (fewer.subset member)

theorem Step.inRange (step : Step worker run action next)
    (inRange : run.InRange) : next.InRange := by
  cases step with
  | start waits =>
      intro slot member
      apply inRange slot
      rw [List.mem_append] at member ⊢
      obtain left | started := member
      · exact .inl (List.mem_of_mem_erase left)
      · obtain rfl | earlier := List.mem_cons.mp started
        · exact .inl waits
        · exact .inr earlier
  | report _ _ _ => exact inRange.fewer (List.erase_sublist.append_left _) rfl
  | fail _ _ _ => exact inRange.fewer (List.erase_sublist.append_left _) rfl
  | abandon _ _ => exact inRange.fewer (List.erase_sublist.append_right _) rfl
  | receive _ _ handles =>
      intro slot member
      rw [Tracker.handle_added handles]
      exact inRange slot member
  | _ => exact inRange

theorem Follows.inRange (follows : Follows worker (.ofPackage package) schedule run) :
    run.InRange := by
  induction follows with
  | refl => exact Run.ofPackage_inRange package
  | snoc _ step induction => exact step.inRange induction

/-- Once the pool is idle, the tracker has a turn until it has ended. -/
theorem Run.track_goes_on (worker : Worker) (idle : run.Idle) :
    (∃ next, Step worker run .track next) ∨ ∃ outcome, run.watch = .ended outcome := by
  cases watched : run.watch with
  | looking =>
      left
      cases finished : run.tracker.isFinished with
      | false => exact ⟨_, .look watched finished⟩
      | true => exact ⟨_, .leave watched finished⟩
  | receiving =>
      left
      cases queued : run.queue with
      | nil => exact ⟨_, .hangUp watched queued idle⟩
      | cons result queue =>
          cases handles : run.tracker.handle result with
          | ok handled => exact ⟨_, .receive watched queued handles⟩
          | error fault => exact ⟨_, .refuse watched queued handles⟩
  | ended outcome => exact .inr ⟨outcome, rfl⟩

theorem Run.returns_of_ended {outcome : Except Fault Unit} (idle : run.Idle)
    (ended : run.watch = .ended outcome) : ∃ execution, run.Returns execution := by
  cases failures : run.failures with
  | cons fault faults =>
      have failed : fault ∈ run.failures := by
        rw [failures]
        exact List.mem_cons_self
      exact ⟨_, .failed idle ended failed⟩
  | nil =>
      cases outcome with
      | ok done => exact ⟨_, .collected idle ended failures⟩
      | error fault => exact ⟨_, .refused idle ended failures⟩

/-- No run gets stuck: it goes on, or it returns. -/
theorem Run.goes_on (inRange : run.InRange) :
    (∃ action next, Step worker run action next) ∨
      ∃ execution, run.Returns execution := by
  cases waiting : run.waiting with
  | cons slot slots =>
      have waits : slot ∈ run.waiting := by
        rw [waiting]
        exact List.mem_cons_self
      exact .inl ⟨_, _, .start waits⟩
  | nil =>
      cases running : run.running with
      | cons slot slots =>
          have runs : slot ∈ run.running := by
            rw [running]
            exact List.mem_cons_self
          have inside : slot < run.tracker.package.filled.length :=
            inRange slot (List.mem_append_right run.waiting runs)
          have found := List.getElem?_eq_getElem inside
          cases answered : worker run.tracker.package.filled[slot] with
          | ok data => exact .inl ⟨_, _, .report runs found answered⟩
          | error complaint => exact .inl ⟨_, _, .fail runs found answered⟩
      | nil =>
          obtain ⟨next, step⟩ | ⟨outcome, ended⟩ :=
            Run.track_goes_on worker ⟨waiting, running⟩
          · exact .inl ⟨_, next, step⟩
          · exact .inr (Run.returns_of_ended ⟨waiting, running⟩ ended)

theorem reports_of_ok {job : Job} {data : List UInt32}
    (answered : worker job = .ok data) (jobs : List Job) :
    reports worker (job :: jobs) =
      ({ number := job.number, data } :: (reports worker jobs).1,
        (reports worker jobs).2) := by
  rw [reports, answered]

theorem reports_of_error {job : Job} {complaint : String}
    (failed : worker job = .error complaint) (jobs : List Job) :
    reports worker (job :: jobs) = ([], some (.worker job.number complaint)) := by
  rw [reports, failed]

/-- Jobs that were not started may all be left once a worker has failed. -/
theorem Follows.abandon_all (slots : List Nat) (fault : RunFault)
    (queue : List JobResult) (tracker : Tracker) (events : List Event) :
    ∃ schedule, Follows worker
      { waiting := slots, failures := [fault], queue, tracker, events } schedule
      { waiting := [], failures := [fault], queue, tracker, events } := by
  induction slots with
  | nil => exact ⟨[], .refl⟩
  | cons slot slots induction =>
      obtain ⟨schedule, follows⟩ := induction
      let run : Run :=
        { waiting := slot :: slots, failures := [fault], queue, tracker, events }
      have abandoned : Step worker run (.pool .abandon slot)
          { run with waiting := run.waiting.erase slot } :=
        .abandon List.mem_cons_self (List.cons_ne_nil _ _)
      rw [List.erase_cons_head] at abandoned
      exact ⟨_, abandoned.one.trans follows⟩

/-- The pool may run its jobs in order, and leave those behind a failure. -/
theorem Follows.pool_in_order (worker : Worker) (entries : List (Job × Nat))
    (queue : List JobResult) (tracker : Tracker) (events : List Event)
    (found : ∀ entry ∈ entries,
      tracker.package.filled[entry.2]? = some entry.1) :
    ∃ schedule, Follows worker
      { waiting := entries.map Prod.snd, queue, tracker, events } schedule
      { waiting := []
        failures := (reports worker (entries.map Prod.fst)).2.toList
        queue := queue ++ (reports worker (entries.map Prod.fst)).1
        tracker
        events } := by
  induction entries generalizing queue with
  | nil =>
      rw [List.map_nil, List.map_nil, reports, List.append_nil]
      exact ⟨[], .refl⟩
  | cons entry entries induction =>
      obtain ⟨job, slot⟩ := entry
      obtain ⟨jobFound, othersFound⟩ := List.forall_mem_cons.mp found
      rw [List.map_cons, List.map_cons]
      let run : Run :=
        { waiting := slot :: entries.map Prod.snd, queue, tracker, events }
      have started : Step worker run (.pool .start slot)
          { run with waiting := run.waiting.erase slot, running := [slot] } :=
        .start List.mem_cons_self
      rw [List.erase_cons_head] at started
      cases answered : worker job with
      | ok data =>
          have reported := started.one.snoc
            (.report List.mem_cons_self jobFound answered)
          obtain ⟨schedule, follows⟩ :=
            induction (queue ++ [{ number := job.number, data }]) othersFound
          rw [List.erase_cons_head] at reported
          rw [reports_of_ok answered, List.append_cons]
          exact ⟨_, reported.trans follows⟩
      | error complaint =>
          have failed := started.one.snoc
            (.fail List.mem_cons_self jobFound answered)
          obtain ⟨schedule, follows⟩ := Follows.abandon_all (entries.map Prod.snd)
            (.worker job.number complaint) queue tracker events
          rw [List.erase_cons_head] at failed
          rw [reports_of_error answered, List.append_nil]
          exact ⟨_, failed.trans follows⟩

/-- The tracker may have the queue to itself in the end. -/
theorem Follows.track_in_order (worker : Worker) (failures : List RunFault)
    (queue : List JobResult) (tracker : Tracker) (events : List Event) :
    ∃ schedule, Follows worker
      { waiting := [], failures, queue, tracker, events } schedule
      { waiting := []
        failures
        queue := (tracker.waitForAll queue).queue
        tracker := (tracker.waitForAll queue).tracker
        watch := .ended (tracker.waitForAll queue).outcome
        events := events ++ (tracker.waitForAll queue).events } := by
  induction queue generalizing tracker events with
  | nil =>
      cases finished : tracker.isFinished with
      | true =>
          rw [Tracker.waitForAll_of_finished finished, List.append_nil]
          exact ⟨_, Step.one (.leave rfl finished)⟩
      | false =>
          let run : Run := { waiting := [], failures, tracker, events }
          have looked : Step worker run .track { run with watch := .receiving } :=
            .look rfl finished
          simp only [Tracker.waitForAll, finished, Bool.false_eq_true, if_false,
            List.append_nil]
          exact ⟨_, looked.one.snoc (.hangUp rfl rfl ⟨rfl, rfl⟩)⟩
  | cons result queue induction =>
      cases finished : tracker.isFinished with
      | true =>
          rw [Tracker.waitForAll_of_finished finished, List.append_nil]
          exact ⟨_, Step.one (.leave rfl finished)⟩
      | false =>
          let run : Run :=
            { waiting := [], failures, queue := result :: queue, tracker, events }
          have looked : Step worker run .track { run with watch := .receiving } :=
            .look rfl finished
          simp only [Tracker.waitForAll, finished, Bool.false_eq_true, if_false]
          cases handles : tracker.handle result with
          | error fault =>
              rw [List.append_nil]
              exact ⟨_, looked.one.snoc (.refuse rfl rfl handles)⟩
          | ok handled =>
              have received := looked.one.snoc (.receive rfl rfl handles)
              obtain ⟨schedule, follows⟩ :=
                induction handled.tracker (events ++ [handled.event])
              rw [List.append_assoc] at follows
              exact ⟨_, received.trans follows⟩

/-- What running a package in order leads to is what some schedule leads to. -/
theorem Executes.in_order (package : Package) (worker : Worker) :
    ∃ schedule, Executes package worker schedule (package.execute worker) := by
  have found : ∀ entry ∈ package.pendingEntries,
      package.filled[entry.2]? = some entry.1 := by
    intro entry member
    exact List.mem_zipIdx_iff_getElem?.mp (List.mem_filter.mp member).1
  let events : List Event := [.packageStart package.pendingCount]
  obtain ⟨before, pooled⟩ :=
    Follows.pool_in_order worker package.pendingEntries [] { package } events found
  rw [← Package.pendingJobs_eq_map, List.nil_append] at pooled
  cases reported : reports worker package.pendingJobs with
  | mk queue failure =>
      rw [reported] at pooled
      obtain ⟨after, tracked⟩ :=
        Follows.track_in_order worker failure.toList queue { package } events
      refine ⟨_, _, pooled.trans tracked, ?_⟩
      simp only [Package.execute, reported]
      cases failure with
      | some fault => exact .failed ⟨rfl, rfl⟩ rfl List.mem_cons_self
      | none =>
          cases outcome : (Tracker.waitForAll { package } queue).outcome with
          | ok _ => exact .collected ⟨rfl, rfl⟩ rfl rfl
          | error fault => exact .refused ⟨rfl, rfl⟩ rfl rfl

theorem Run.Returns.ended {execution : Execution} (returns : run.Returns execution) :
    run.Idle ∧ ∃ outcome, run.watch = .ended outcome := by
  cases returns with
  | failed idle ended _ => exact ⟨idle, _, ended⟩
  | refused idle ended _ => exact ⟨idle, _, ended⟩
  | collected idle ended _ => exact ⟨idle, _, ended⟩

theorem Run.Returns.final {execution : Execution} (returns : run.Returns execution) :
    ¬Step worker run action next := by
  obtain ⟨⟨nobodyWaits, nobodyRuns⟩, outcome, ended⟩ := returns.ended
  intro step
  cases step with
  | start waits => exact List.not_mem_nil (nobodyWaits ▸ waits)
  | report runs _ _ => exact List.not_mem_nil (nobodyRuns ▸ runs)
  | fail runs _ _ => exact List.not_mem_nil (nobodyRuns ▸ runs)
  | abandon waits _ => exact List.not_mem_nil (nobodyWaits ▸ waits)
  | look looks _ => exact Watch.noConfusion (looks.symm.trans ended)
  | leave looks _ => exact Watch.noConfusion (looks.symm.trans ended)
  | receive waits _ _ => exact Watch.noConfusion (waits.symm.trans ended)
  | refuse waits _ _ => exact Watch.noConfusion (waits.symm.trans ended)
  | hangUp waits _ _ => exact Watch.noConfusion (waits.symm.trans ended)

/-- Running a package comes to an end under every schedule, with an answer and
not before there is one; a job after the other is one of the schedules. -/
structure Ends (package : Package) (worker : Worker) : Prop where
  bounded : ∀ schedule run, Follows worker (.ofPackage package) schedule run →
    schedule.length ≤ 4 * package.pendingCount + 2
  answers : ∀ schedule run, Follows worker (.ofPackage package) schedule run →
    ((¬∃ action next, Step worker run action next) ↔
      ∃ execution, run.Returns execution)
  in_order : ∃ schedule, Executes package worker schedule (package.execute worker)

theorem Ends.always (package : Package) (worker : Worker) : Ends package worker where
  bounded schedule run follows := by
    have turns := follows.turns_le
    simp only [Run.turns, Run.ofPackage, Package.pendingSlots_length, Watch.turns,
      List.length_nil] at turns
    omega
  answers schedule run follows := by
    constructor
    · intro stuck
      exact (Run.goes_on follows.inRange).resolve_left stuck
    · rintro ⟨execution, returns⟩ ⟨action, next, step⟩
      exact returns.final step
  in_order := Executes.in_order package worker

end WorkPackage
