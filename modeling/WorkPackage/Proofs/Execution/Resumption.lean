import WorkPackage.Proofs.Execution.Outcome

/-!
# Resumption

A package is run again and again until a run collects.  Each job is completed in
just one of these runs, and no other run has a result for it.  If that run
collects, then the result is in its list; if it is aborted, then the job stays
completed and the result is dropped, so that nobody ever gets it.
-/

namespace WorkPackage

/-- One run of a package: who worked, and what it came to. -/
structure Call where
  worker : Worker
  execution : Execution

/-- The results that a call returned; an aborted call returns none. -/
def Call.results (call : Call) : List JobResult :=
  match call.execution.outcome with
  | .ok results => results
  | .error _ => []

/-- Calls on a package, each on what the one before it left, and each under some
schedule. -/
inductive Undergoes : Package → List Call → Prop where
  | nil {package : Package} : Undergoes package []
  | cons {package : Package} {call : Call} {calls : List Call}
      {schedule : List Action}
      (executes : Executes package call.worker schedule call.execution)
      (later : Undergoes call.execution.package calls) :
      Undergoes package (call :: calls)

/-- The last of the calls returned results. -/
def Concluded (calls : List Call) : Prop :=
  ∃ call results, calls.getLast? = some call ∧
    call.execution.outcome = .ok results

/-- What a run has done to a package in which it completed some slots. -/
structure Ran (package : Package) (worker : Worker) (slots : List Nat)
    (execution : Execution) : Prop where
  completed : execution.package = package.completing slots
  answered : ∀ slot ∈ slots,
    ∃ job data, package.PendingAt slot job ∧ worker job = .ok data
  outcome :
    (∃ results, execution.outcome = .ok results ∧
      package.AnsweredBy worker results ∧
      ∀ slot ∈ package.pendingSlots, slot ∈ slots) ∨
    ∃ number complaint, execution.outcome = .error (.worker number complaint)

/-- One call of several completed the job of a slot: it was pending until then,
stayed completed, and no other call returned a result for it. -/
structure CompletedIn (slot : Nat) (job : Job) (data : List UInt32)
    (before : List Call) (call : Call) (after : List Call) : Prop where
  pending : ∀ earlier ∈ before, earlier.execution.package.PendingAt slot job
  completed : ∀ later ∈ call :: after,
    later.execution.package.filled[slot]? = some job.complete
  answered : call.worker job = .ok data
  returned :
    (∃ results, call.execution.outcome = .ok results ∧
      (results.filter fun result => result.number = job.number) =
        [{ number := job.number, data }]) ∨
    ∃ number complaint,
      call.execution.outcome = .error (.worker number complaint)
  elsewhere : ∀ other ∈ before ++ after,
    ∀ result ∈ other.results, result.number ≠ job.number

variable {package : Package} {worker : Worker} {schedule : List Action}
  {execution : Execution} {slots : List Nat} {slot : Nat} {job : Job}
  {call : Call} {calls : List Call}

theorem Call.mem_results {result : JobResult} :
    result ∈ call.results ↔
      ∃ results, call.execution.outcome = .ok results ∧ result ∈ results := by
  unfold Call.results
  cases outcome : call.execution.outcome with
  | ok results =>
      constructor
      · intro member
        exact ⟨results, rfl, member⟩
      · rintro ⟨others, same, member⟩
        cases same
        exact member
  | error fault => simp

theorem Concluded.tail (concluded : Concluded (call :: calls)) {fault : RunFault}
    (failed : call.execution.outcome = .error fault) : Concluded calls := by
  obtain ⟨last, results, ends, collected⟩ := concluded
  cases calls with
  | nil =>
      have same : call = last := Option.some.inj ends
      rw [← same, failed] at collected
      contradiction
  | cons next others =>
      rw [List.getLast?_cons_cons] at ends
      exact ⟨last, results, ends, collected⟩

/-- Among the results of a run there is one for a job, with the data that the
worker had for it. -/
theorem Package.AnsweredBy.filter_number {results : List JobResult}
    (answered : package.AnsweredBy worker results) (distinct : package.Distinct)
    (pending : package.PendingAt slot job) {data : List UInt32}
    (succeeded : worker job = .ok data) :
    (results.filter fun result => result.number = job.number) =
      [{ number := job.number, data }] := by
  apply List.perm_singleton.mp
  have single : (results.filter fun result => result.number = job.number).Nodup :=
    (Tracker.nodup_of_ascending answered.ascending).filter _
  apply (List.perm_ext_iff_of_nodup single (List.pairwise_singleton _ _)).mpr
  intro result
  rw [List.mem_filter, List.mem_singleton, answered.complete, decide_eq_true_iff]
  constructor
  · rintro ⟨⟨other, member, names, otherSucceeded⟩, same⟩
    obtain ⟨otherSlot, otherPending⟩ := Package.mem_pendingJobs.mp member
    have sameSlot : otherSlot = slot :=
      distinct.slot_unique otherPending.1 pending.1 (names.symm.trans same)
    subst sameSlot
    rw [otherPending.unique pending, succeeded] at otherSucceeded
    exact JobResult.ext same (Except.ok.inj otherSucceeded).symm
  · rintro rfl
    exact ⟨⟨job, Package.mem_pendingJobs.mpr ⟨slot, pending⟩, rfl, succeeded⟩, rfl⟩

theorem Executes.ran (distinct : package.Distinct)
    (executes : Executes package worker schedule execution) :
    ∃ slots, Ran package worker slots execution := by
  by_cases succeeds : ∀ job ∈ package.pendingJobs, ∃ data, worker job = .ok data
  · obtain ⟨results, answered, collected⟩ := executes.collected distinct succeeds
    refine ⟨package.pendingSlots, ?_, ?_, .inl ⟨results, collected.outcome, answered,
      fun _ pending => pending⟩⟩
    · rw [collected.completed, Package.completing_of_pending fun _ pending => pending]
    · intro slot member
      obtain ⟨job, pending⟩ := Package.mem_pendingSlots.mp member
      obtain ⟨data, succeeded⟩ :=
        succeeds job (Package.mem_pendingJobs.mpr ⟨slot, pending⟩)
      exact ⟨job, data, pending, succeeded⟩
  · have fails : ∃ job ∈ package.pendingJobs,
        ∃ complaint, worker job = .error complaint := by
      obtain ⟨job, notSucceeded⟩ := Classical.not_forall.mp succeeds
      obtain ⟨member, noData⟩ := Classical.not_imp.mp notSucceeded
      cases answer : worker job with
      | ok data => exact absurd ⟨data, answer⟩ noData
      | error complaint => exact ⟨job, member, complaint, answer⟩
    have aborted := executes.aborted distinct fails
    refine ⟨slotsOf .report schedule, aborted.completed, aborted.succeeded, .inr ?_⟩
    obtain ⟨breakdown, ⟨failing, complaint, -, -, named⟩, -, outcome⟩ :=
      aborted.outcome
    exact ⟨failing.number, complaint, by rw [outcome, named]⟩

namespace Ran

variable (ran : Ran package worker slots execution)
include ran

theorem distinct (distinct : package.Distinct) : execution.package.Distinct := by
  rw [ran.completed]
  exact distinct.completing slots

theorem still_pending (pending : package.PendingAt slot job) (left : slot ∉ slots) :
    execution.package.PendingAt slot job := by
  rw [ran.completed]
  exact Package.pendingAt_completing.mpr ⟨pending, left⟩

theorem now_completed (found : package.filled[slot]? = some job)
    (done : slot ∈ slots) :
    execution.package.filled[slot]? = some job.complete := by
  rw [ran.completed, Package.completing_getElem?, found, Option.map_some,
    if_pos done]

theorem still_completed (found : package.filled[slot]? = some job.complete) :
    execution.package.filled[slot]? = some job.complete := by
  rw [ran.completed, Package.completing_getElem?, found, Option.map_some]
  split <;> rfl

theorem failed_of_left (pending : package.PendingAt slot job)
    (left : slot ∉ slots) :
    ∃ number complaint, execution.outcome = .error (.worker number complaint) := by
  obtain ⟨results, -, -, all⟩ | failed := ran.outcome
  · exact absurd (all slot (Package.mem_pendingSlots.mpr ⟨job, pending⟩)) left
  · exact failed

/-- A run has no result for a job that was completed before it. -/
theorem number_ne (distinct : package.Distinct)
    (found : package.filled[slot]? = some job.complete) {results : List JobResult}
    (collected : execution.outcome = .ok results) :
    ∀ result ∈ results, result.number ≠ job.number := by
  intro result member same
  obtain ⟨others, outcome, answered, -⟩ | ⟨number, complaint, outcome⟩ := ran.outcome
  · cases outcome.symm.trans collected
    obtain ⟨other, inside, names, -⟩ := (answered.complete result).mp member
    obtain ⟨otherSlot, otherFound, clear⟩ := Package.mem_pendingJobs.mp inside
    have sameSlot : otherSlot = slot :=
      distinct.slot_unique otherFound found (names.symm.trans same)
    subst sameSlot
    cases otherFound.symm.trans found
    contradiction
  · cases outcome.symm.trans collected

end Ran

/-- What is completed stays completed, and no later call has a result for it. -/
theorem Undergoes.stays_completed (undergoes : Undergoes package calls)
    (distinct : package.Distinct)
    (found : package.filled[slot]? = some job.complete) :
    ∀ call ∈ calls, call.execution.package.filled[slot]? = some job.complete ∧
      ∀ result ∈ call.results, result.number ≠ job.number := by
  induction undergoes with
  | nil =>
      intro call member
      contradiction
  | cons executes _ induction =>
      obtain ⟨slots, ran⟩ := executes.ran distinct
      have stillFound := ran.still_completed found
      intro call member
      obtain rfl | later := List.mem_cons.mp member
      · refine ⟨stillFound, ?_⟩
        intro result returned
        obtain ⟨results, collected, inside⟩ := Call.mem_results.mp returned
        exact ran.number_ne distinct found collected result inside
      · exact induction (ran.distinct distinct) stillFound call later

theorem Undergoes.completed_once (undergoes : Undergoes package calls)
    (distinct : package.Distinct) (concluded : Concluded calls)
    (pending : package.PendingAt slot job) :
    ∃ before call after data, calls = before ++ call :: after ∧
      CompletedIn slot job data before call after := by
  induction undergoes with
  | nil =>
      obtain ⟨call, -, ends, -⟩ := concluded
      contradiction
  | @cons package call calls _ executes later induction =>
      obtain ⟨slots, ran⟩ := executes.ran distinct
      by_cases done : slot ∈ slots
      · have found := ran.now_completed pending.1 done
        have stays := later.stays_completed (ran.distinct distinct) found
        obtain ⟨other, data, otherPending, succeeded⟩ := ran.answered slot done
        cases otherPending.unique pending
        refine ⟨[], call, calls, data, rfl, ?_⟩
        exact
          { pending := fun _ member => absurd member List.not_mem_nil
            completed := List.forall_mem_cons.mpr
              ⟨found, fun other member => (stays other member).1⟩
            answered := succeeded
            returned := by
              obtain ⟨results, collected, answered, -⟩ | failed := ran.outcome
              · exact .inl ⟨results, collected,
                  answered.filter_number distinct pending succeeded⟩
              · exact .inr failed
            elsewhere := fun other member => (stays other member).2 }
      · -- The job was left, so that the call failed and is not the last one.
        have stillPending := ran.still_pending pending done
        obtain ⟨number, complaint, failed⟩ := ran.failed_of_left pending done
        obtain ⟨before, completing, after, data, rfl, completed⟩ :=
          induction (ran.distinct distinct) (concluded.tail failed) stillPending
        refine ⟨call :: before, completing, after, data, rfl, ?_⟩
        exact
          { completed with
            pending := List.forall_mem_cons.mpr ⟨stillPending, completed.pending⟩
            elsewhere := by
              intro other member
              obtain rfl | later := List.mem_cons.mp member
              · intro result returned
                obtain ⟨results, collected, -⟩ := Call.mem_results.mp returned
                cases failed.symm.trans collected
              · exact completed.elsewhere other later }

/-- When a package is run until a run collects, each job is completed in one of
the runs and has a result there; nobody gets it exactly if that run was
aborted. -/
theorem each_job_is_completed_by_one_run {package : Package} {calls : List Call}
    (distinct : package.Distinct)
    (fresh : ∀ job ∈ package.filled, job.completed = false)
    (undergoes : Undergoes package calls) (concluded : Concluded calls) :
    ∀ slot job, package.filled[slot]? = some job →
      ∃ before call after data, calls = before ++ call :: after ∧
        CompletedIn slot job data before call after := by
  intro slot job found
  have clear := fresh job (List.mem_of_getElem? found)
  exact undergoes.completed_once distinct concluded ⟨found, clear⟩

/-- Two pending jobs. -/
def interruptedPackage : Package where
  filled := [{ number := 0 }, { number := 1 }]

def interruptingWorker : Worker :=
  fun job => if job.number = 1 then .error "killed" else .ok [job.number.toUInt32]

/-- The first call is aborted behind the first job, the second one does the
rest. -/
def interruptedCalls : List Call :=
  let first := interruptedPackage.execute interruptingWorker
  [{ worker := interruptingWorker, execution := first },
    { worker := exampleWorker, execution := first.package.execute exampleWorker }]

theorem interruptedCalls_undergone :
    Undergoes interruptedPackage interruptedCalls := by
  obtain ⟨_, first⟩ := Executes.in_order interruptedPackage interruptingWorker
  obtain ⟨_, second⟩ := Executes.in_order
    (interruptedPackage.execute interruptingWorker).package exampleWorker
  exact .cons first (.cons second .nil)

theorem interruptedCalls_concluded : Concluded interruptedCalls :=
  ⟨_, [{ number := 1, data := [1] }], rfl, rfl⟩

/-- The job that the aborted call completed has its result in no list. -/
theorem interrupted_result_reaches_nobody :
    interruptedPackage.Distinct ∧
    (∀ job ∈ interruptedPackage.filled, job.completed = false) ∧
    Undergoes interruptedPackage interruptedCalls ∧ Concluded interruptedCalls ∧
    ∃ job ∈ interruptedPackage.filled, ∀ call ∈ interruptedCalls,
      ∀ result ∈ call.results, result.number ≠ job.number :=
  ⟨by decide, by decide, interruptedCalls_undergone, interruptedCalls_concluded,
    { number := 0 }, List.mem_cons_self, by decide⟩

theorem interrupted_job_is_completed_by_one_run :
    ∃ before call after data, interruptedCalls = before ++ call :: after ∧
      CompletedIn 0 { number := 0 } data before call after :=
  each_job_is_completed_by_one_run (by decide) (by decide)
    interruptedCalls_undergone interruptedCalls_concluded 0 { number := 0 } rfl

end WorkPackage
