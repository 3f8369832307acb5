import WorkPackage.Proofs.Execution.Account

/-!
# What is left in the end

When pool and tracker have come to an end, no report is on its way any more, and
each job is reported, failed or left.  Without a failure nothing was left, and
the results do not depend on the schedule.  With one, the jobs that reported are
completed and no others, so that a later run goes on with the rest.
-/

namespace WorkPackage

/-- The results that a worker has for the pending jobs, in ascending order. -/
structure Package.AnsweredBy (package : Package) (worker : Worker)
    (results : List JobResult) : Prop where
  ascending : results.Pairwise (·.number < ·.number)
  complete : ∀ result, result ∈ results ↔
    ∃ job ∈ package.pendingJobs,
      result.number = job.number ∧ worker job = .ok result.data

/-- A run that collected these results, and started each pending job once. -/
structure Collected (package : Package) (schedule : List Action)
    (results : List JobResult) (execution : Execution) : Prop where
  outcome : execution.outcome = .ok results
  completed : execution.package =
    { package with filled := package.filled.map Job.complete }
  told : ∃ order : List Int32, order.Perm (package.pendingJobs.map Job.number) ∧
    execution.events =
      .packageStart package.pendingCount :: order.map .jobCompleted ++
        [.packageFinish]
  once : (slotsOf .start schedule).Perm package.pendingSlots

/-- A run that a failure of the worker ended. -/
structure Aborted (package : Package) (worker : Worker) (schedule : List Action)
    (execution : Execution) : Prop where
  outcome : ∃ breakdown, package.Fails worker breakdown ∧
    breakdown.slot ∈ slotsOf .fail schedule ∧
    execution.outcome = .error breakdown.fault
  unfinished : .packageFinish ∉ execution.events
  /-- Of all jobs, free ones included, those that reported are completed. -/
  completed : execution.package = package.completing (slotsOf .report schedule)
  succeeded : ∀ slot ∈ slotsOf .report schedule,
    ∃ job data, package.PendingAt slot job ∧ worker job = .ok data
  /-- What is pending is what failed or was left. -/
  left : execution.package.pendingSlots.Perm
    (slotsOf .fail schedule ++ slotsOf .abandon schedule)
  dealt : (slotsOf .report schedule ++ slotsOf .fail schedule ++
    slotsOf .abandon schedule).Perm package.pendingSlots

variable {package : Package} {worker : Worker} {run : Run} {ledger : Ledger}
  {schedule : List Action} {execution : Execution}

theorem Package.AnsweredBy.unique {left right : List JobResult}
    (leftAnswered : package.AnsweredBy worker left)
    (rightAnswered : package.AnsweredBy worker right) : left = right := by
  apply Tracker.ascending_unique leftAnswered.ascending rightAnswered.ascending
  intro result
  exact (leftAnswered.complete result).trans (rightAnswered.complete result).symm

namespace Account

section Ended

variable (account : Account package worker run ledger)
include account

theorem isFinished_iff :
    run.tracker.isFinished = true ↔
      ∀ slot ∈ package.pendingSlots, slot ∈ ledger.handledSlots := by
  rw [Tracker.isFinished_iff, account.completed, List.eq_nil_iff_forall_not_mem]
  constructor
  · intro none slot pending
    by_cases handled : slot ∈ ledger.handledSlots
    · exact handled
    · exact absurd (Package.mem_pendingSlots_completing.mpr ⟨pending, handled⟩)
        (none slot)
  · intro all slot pending
    obtain ⟨inside, unhandled⟩ := Package.mem_pendingSlots_completing.mp pending
    exact unhandled (all slot inside)

/-- A tracker that has ended has received all that was sent. -/
theorem coming_eq_nil {outcome : Except Fault Unit}
    (ended : run.watch = .ended outcome) : ledger.coming = [] := by
  have watched := account.watched
  rw [Run.Watched, ended] at watched
  cases outcome with
  | ok _ =>
      -- All pending jobs are handled, so that a report to come would be a second
      -- one of some job.
      have all := account.isFinished_iff.mp watched
      cases coming : ledger.coming with
      | nil => rfl
      | cons delivery rest =>
          obtain ⟨job, pending, -⟩ := account.answered_next coming
          have handled := all delivery.slot
            (Package.mem_pendingSlots.mpr ⟨job, pending⟩)
          exact absurd handled (account.slot_unhandled coming)
  | error fault =>
      exact List.map_eq_nil_iff.mp (account.queued.symm.trans watched.2.1)

theorem handledSlots_eq {outcome : Except Fault Unit}
    (ended : run.watch = .ended outcome) :
    ledger.handledSlots = ledger.slots .report := by
  rw [Ledger.slots, Ledger.deliveries, account.coming_eq_nil ended,
    List.append_nil, Ledger.handledSlots]

theorem dealt_of_idle (idle : run.Idle) :
    (ledger.slots .report ++ ledger.slots .fail ++ ledger.slots .abandon).Perm
      package.pendingSlots := by
  have dealt := account.dealt
  rwa [idle.1, idle.2, List.append_nil, List.nil_append] at dealt

theorem succeeded {slot : Nat} (reported : slot ∈ ledger.slots .report) :
    ∃ job data, package.PendingAt slot job ∧ worker job = .ok data := by
  obtain ⟨delivery, delivered, rfl⟩ := List.mem_map.mp reported
  obtain ⟨job, pending, -, answered⟩ := account.answered delivery delivered
  exact ⟨job, delivery.result.data, pending, answered⟩

theorem nothing_failed
    (succeeds : ∀ job ∈ package.pendingJobs, ∃ data, worker job = .ok data) :
    run.failures = [] ∧ ledger.slots .fail = [] ∧ ledger.slots .abandon = [] := by
  have noneFailed : ledger.failed = [] := by
    apply List.eq_nil_iff_forall_not_mem.mpr
    intro breakdown member
    obtain ⟨job, complaint, pending, failed, -⟩ := account.failing breakdown member
    obtain ⟨data, answered⟩ :=
      succeeds job (Package.mem_pendingJobs.mpr ⟨_, pending⟩)
    cases failed.symm.trans answered
  have noFailures : run.failures = [] := by
    rw [account.failures, noneFailed, List.map_nil]
  refine ⟨noFailures, congrArg (List.map Breakdown.slot) noneFailed, ?_⟩
  by_cases left : ledger.abandoned = []
  · exact left
  · exact absurd noFailures (account.blamed left)

theorem answeredBy (all : ∀ slot ∈ package.pendingSlots, slot ∈ ledger.handledSlots) :
    package.AnsweredBy worker run.tracker.results where
  ascending := account.ascending
  complete result := by
    rw [account.collected.mem_iff, List.mem_map]
    constructor
    · rintro ⟨delivery, handled, rfl⟩
      obtain ⟨job, pending, names, answered⟩ :=
        account.answered delivery (List.mem_append_left _ handled)
      exact ⟨job, Package.mem_pendingJobs.mpr ⟨_, pending⟩, names, answered⟩
    · rintro ⟨job, member, names, answered⟩
      obtain ⟨slot, pending⟩ := Package.mem_pendingJobs.mp member
      obtain ⟨delivery, handled, rfl⟩ := List.mem_map.mp
        (all slot (Package.mem_pendingSlots.mpr ⟨job, pending⟩))
      obtain ⟨other, otherPending, otherNames, otherAnswered⟩ :=
        account.answered delivery (List.mem_append_left _ handled)
      have sameJob : other = job := otherPending.unique pending
      subst sameJob
      have same : delivery.result = result :=
        JobResult.ext (otherNames.trans names.symm)
          (Except.ok.inj (otherAnswered.symm.trans answered))
      exact ⟨delivery, handled, same⟩

end Ended

end Account

/-- Each pending job has one result, if the worker has an answer for it. -/
theorem Package.AnsweredBy.numbers {results : List JobResult}
    (answered : package.AnsweredBy worker results) (distinct : package.Distinct)
    (succeeds : ∀ job ∈ package.pendingJobs, ∃ data, worker job = .ok data) :
    (results.map JobResult.number).Perm (package.pendingJobs.map Job.number) := by
  have jobsNodup : (package.pendingJobs.map Job.number).Nodup :=
    distinct.sublist (List.filter_sublist.map Job.number)
  apply (List.perm_ext_iff_of_nodup (Tracker.numbers_nodup answered.ascending)
    jobsNodup).mpr
  intro number
  rw [List.mem_map, List.mem_map]
  constructor
  · rintro ⟨result, member, rfl⟩
    obtain ⟨job, pending, names, -⟩ := (answered.complete result).mp member
    exact ⟨job, pending, names.symm⟩
  · rintro ⟨job, pending, rfl⟩
    obtain ⟨data, succeeded⟩ := succeeds job pending
    exact ⟨{ number := job.number, data },
      (answered.complete _).mpr ⟨job, pending, rfl, succeeded⟩, rfl⟩

theorem Executes.collected (distinct : package.Distinct)
    (succeeds : ∀ job ∈ package.pendingJobs, ∃ data, worker job = .ok data)
    (executes : Executes package worker schedule execution) :
    ∃ results, package.AnsweredBy worker results ∧
      Collected package schedule results execution := by
  obtain ⟨run, follows, returns⟩ := executes
  obtain ⟨ledger, account, records⟩ := follows.account distinct
  obtain ⟨idle, outcome, ended⟩ := returns.ended
  obtain ⟨noFailures, noneFailed, noneLeft⟩ := account.nothing_failed succeeds
  have reported : (ledger.slots .report).Perm package.pendingSlots := by
    have dealt := account.dealt_of_idle idle
    rwa [noneFailed, noneLeft, List.append_nil, List.append_nil] at dealt
  have all : ∀ slot ∈ package.pendingSlots, slot ∈ ledger.handledSlots := by
    intro slot pending
    rw [account.handledSlots_eq ended]
    exact reported.symm.subset pending
  have answered := account.answeredBy all
  refine ⟨run.tracker.results, answered, ?_⟩
  cases returns with
  | failed _ _ failed =>
      rw [noFailures] at failed
      contradiction
  | refused _ hungUp _ =>
      -- A tracker hangs up only while a job is pending.
      have watched := account.watched
      rw [Run.Watched, hungUp] at watched
      have finished := account.isFinished_iff.mpr all
      rw [watched.1] at finished
      contradiction
  | collected _ _ _ =>
      exact
        { outcome := rfl
          completed := by
            rw [account.completed]
            exact Package.completing_of_pending all
          told := by
            refine ⟨ledger.handled.map fun delivery => delivery.result.number, ?_, ?_⟩
            · have kept := account.collected.map JobResult.number
              rw [List.map_map] at kept
              exact kept.symm.trans (answered.numbers distinct succeeds)
            · rw [account.told, List.map_map]
              rfl
          once := by
            have started := account.started
            rw [idle.2, noneFailed, List.nil_append, List.append_nil] at started
            rw [records .start]
            exact started.trans reported }

theorem Executes.aborted (distinct : package.Distinct)
    (fails : ∃ job ∈ package.pendingJobs, ∃ complaint, worker job = .error complaint)
    (executes : Executes package worker schedule execution) :
    Aborted package worker schedule execution := by
  obtain ⟨run, follows, returns⟩ := executes
  obtain ⟨ledger, account, records⟩ := follows.account distinct
  obtain ⟨idle, outcome, ended⟩ := returns.ended
  have dealt := account.dealt_of_idle idle
  obtain ⟨job, member, complaint, failed⟩ := fails
  obtain ⟨slot, pending⟩ := Package.mem_pendingJobs.mp member
  have unreported : slot ∉ ledger.slots .report := by
    intro reported
    obtain ⟨other, data, otherPending, answered⟩ := account.succeeded reported
    rw [otherPending.unique pending, failed] at answered
    contradiction
  -- The job that fails is not among the reported ones, so that it was tried and
  -- failed or was left; and jobs are left only when one has failed.
  have failures : run.failures ≠ [] := by
    have placed := dealt.symm.subset (Package.mem_pendingSlots.mpr ⟨job, pending⟩)
    obtain tried | left := List.mem_append.mp placed
    · obtain reported | failed := List.mem_append.mp tried
      · exact absurd reported unreported
      · obtain ⟨breakdown, noted, -⟩ := List.mem_map.mp failed
        rw [account.failures]
        exact List.ne_nil_of_mem (List.mem_map_of_mem noted)
    · exact account.blamed (List.ne_nil_of_mem left)
  cases returns with
  | refused _ _ none => exact absurd none failures
  | collected _ _ none => exact absurd none failures
  | failed _ _ seen =>
      have completed : run.tracker.package =
          package.completing (slotsOf .report schedule) := by
        rw [account.completed, account.handledSlots_eq ended, records .report]
      rw [← records .report, ← records .fail, ← records .abandon] at dealt
      exact
        { outcome := by
            rw [account.failures] at seen
            obtain ⟨breakdown, noted, rfl⟩ := List.mem_map.mp seen
            refine ⟨breakdown, account.failing breakdown noted, ?_, rfl⟩
            rw [records .fail]
            exact List.mem_map_of_mem noted
          unfinished := by
            rw [account.told]
            simp only [List.mem_cons, List.mem_map, reduceCtorEq, and_false,
              exists_false, or_false, not_false_iff]
          completed
          succeeded := by
            intro slot reported
            rw [records .report] at reported
            exact account.succeeded reported
          left := by
            rw [List.append_assoc] at dealt
            rw [completed]
            exact Package.pendingSlots_completing dealt
          dealt }

/-- Where the worker has an answer for each pending job, all schedules lead to
the same results. -/
theorem results_of_every_schedule (distinct : package.Distinct)
    (succeeds : ∀ job ∈ package.pendingJobs, ∃ data, worker job = .ok data) :
    ∃ results, package.AnsweredBy worker results ∧
      ∀ schedule execution, Executes package worker schedule execution →
        Collected package schedule results execution := by
  obtain ⟨inOrder, executed⟩ := Executes.in_order package worker
  obtain ⟨results, answered, -⟩ := executed.collected distinct succeeds
  refine ⟨results, answered, ?_⟩
  intro schedule execution executes
  obtain ⟨others, othersAnswered, collected⟩ := executes.collected distinct succeeds
  rwa [answered.unique othersAnswered]

/-- Running a package does not depend on who acts when.  If the worker has an
answer for each pending job, then every schedule comes to an end, with the same
results in ascending order of the job numbers, with every filled job completed,
and with one event for each job that was pending. -/
theorem execution_is_schedule_independent {package : Package} {worker : Worker}
    (distinct : package.Distinct)
    (succeeds : ∀ job ∈ package.pendingJobs, ∃ data, worker job = .ok data) :
    Ends package worker ∧
    ∃ results, package.AnsweredBy worker results ∧
      ∀ schedule execution, Executes package worker schedule execution →
        Collected package schedule results execution :=
  ⟨Ends.always package worker, results_of_every_schedule distinct succeeds⟩

/-- Two pending jobs out of order, a completed one, and a free slot with the
number of a filled one. -/
def examplePackage : Package where
  filled :=
    [{ number := 7 }, { number := 2, completed := true }, { number := -3 }]
  free := [{ number := 7 }]

def exampleWorker : Worker :=
  fun job => .ok [job.number.toUInt32]

theorem example_package_collects :
    examplePackage.Distinct ∧
    ∀ schedule execution,
      Executes examplePackage exampleWorker schedule execution →
        execution.outcome =
          .ok [{ number := -3, data := [4294967293] },
            { number := 7, data := [7] }] := by
  have distinct : examplePackage.Distinct := by decide
  have succeeds : ∀ job ∈ examplePackage.pendingJobs,
      ∃ data, exampleWorker job = .ok data :=
    fun job _ => ⟨[job.number.toUInt32], rfl⟩
  obtain ⟨ends, results, -, collects⟩ :=
    execution_is_schedule_independent distinct succeeds
  obtain ⟨inOrder, executed⟩ := ends.in_order
  refine ⟨distinct, fun schedule execution executes => ?_⟩
  rw [(collects _ _ executes).outcome, ← (collects _ _ executed).outcome]
  rfl

/-- If the worker fails on a pending job, then every schedule ends with such a
failure, and with those jobs completed that reported.  A later run whose worker
has the answers starts what is left, and completes it. -/
theorem execution_aborts_and_resumes {package : Package} {worker : Worker}
    (distinct : package.Distinct)
    (fails : ∃ job ∈ package.pendingJobs,
      ∃ complaint, worker job = .error complaint) :
    Ends package worker ∧
    ∀ schedule execution, Executes package worker schedule execution →
      Aborted package worker schedule execution ∧
      ∀ later : Worker,
        (∀ job ∈ execution.package.pendingJobs, ∃ data, later job = .ok data) →
        Ends execution.package later ∧
        ∃ results, execution.package.AnsweredBy later results ∧
          ∀ secondSchedule second,
            Executes execution.package later secondSchedule second →
              Collected execution.package secondSchedule results second := by
  refine ⟨Ends.always package worker, ?_⟩
  intro schedule execution executes
  have aborted := executes.aborted distinct fails
  have stillDistinct : execution.package.Distinct := by
    rw [aborted.completed]
    exact distinct.completing _
  refine ⟨aborted, ?_⟩
  intro later succeeds
  exact ⟨Ends.always execution.package later,
    results_of_every_schedule stillDistinct succeeds⟩

/-- A worker that has an answer for all jobs but one. -/
def exampleFailingWorker : Worker :=
  fun job => if job.number = 7 then .error "segmentation fault" else .ok []

theorem example_package_aborts :
    examplePackage.Distinct ∧
    ∀ schedule execution,
      Executes examplePackage exampleFailingWorker schedule execution →
        execution.outcome = .error (.worker 7 "segmentation fault") := by
  have distinct : examplePackage.Distinct := by decide
  have fails : ∃ job ∈ examplePackage.pendingJobs,
      ∃ complaint, exampleFailingWorker job = .error complaint :=
    ⟨{ number := 7 }, by decide, _, rfl⟩
  refine ⟨distinct, fun schedule execution executes => ?_⟩
  have aborted :=
    ((execution_aborts_and_resumes distinct fails).2 schedule execution executes).1
  obtain ⟨breakdown, ⟨job, complaint, -, failed, named⟩, -, outcome⟩ :=
    aborted.outcome
  rw [exampleFailingWorker] at failed
  by_cases seven : job.number = 7
  · rw [if_pos seven] at failed
    cases failed
    rw [outcome, named, seven]
  · rw [if_neg seven] at failed
    contradiction

end WorkPackage
