import WorkPackage.Proofs.Execution.Outcome
import WorkPackage.Proofs.Wire.Frame

/-!
# Job numbers

A result says which job it is for by the number of the job.  The numbers of a
package that was read are those on the wire, and two filled slots may have the
same one.  The later of the two is then out of reach: every result with that
number is for the earlier one.  So a package can be completed if, and only if,
its filled slots have numbers of their own.
-/

namespace WorkPackage

namespace Package

variable {package : Package} {slot : Nat} {job : Job} {number : Int32}

/-- A pending job whose number an earlier slot has as well. -/
def ShadowedAt (package : Package) (slot : Nat) (job : Job) : Prop :=
  package.PendingAt slot job ∧
    ∃ earlier < slot, ∃ other,
      package.filled[earlier]? = some other ∧ other.number = job.number

/-- A shadowed job stays pending whatever number is completed. -/
theorem ShadowedAt.completeFilled (shadowed : package.ShadowedAt slot job)
    {flipped : Bool} {after : Package}
    (completed : package.completeFilled? number = some (flipped, after)) :
    after.ShadowedAt slot job := by
  obtain ⟨⟨_, filled⟩, completedFirst, same⟩ := Option.map_eq_some_iff.mp completed
  cases same
  obtain ⟨first, firstJob, firstFound, names, least, -, rfl⟩ :=
    completeFirst_eq_some completedFirst
  obtain ⟨⟨found, clear⟩, earlier, before, other, otherFound, sameNumber⟩ := shadowed
  have apart : first ≠ slot := by
    rintro rfl
    cases firstFound.symm.trans found
    exact least earlier before other otherFound (sameNumber.trans names)
  refine ⟨⟨?_, clear⟩, earlier, before, ?_⟩
  · rw [List.getElem?_modify_ne _ _ apart, found]
  · by_cases here : first = earlier
    · subst here
      refine ⟨other.complete, ?_, sameNumber⟩
      rw [List.getElem?_modify_eq, otherFound]
      rfl
    · refine ⟨other, ?_, sameNumber⟩
      rw [List.getElem?_modify_ne _ _ here, otherFound]

theorem ShadowedAt.not_finished (shadowed : package.ShadowedAt slot job)
    {tracker : Tracker} (same : tracker.package = package) :
    tracker.isFinished = false := by
  apply Bool.eq_false_iff.mpr
  intro finished
  have none := Tracker.isFinished_iff.mp finished
  have pending := mem_pendingSlots.mpr ⟨job, shadowed.1⟩
  rw [← same, none] at pending
  contradiction

/-- A number that two fresh slots have leaves the later one in the shadow. -/
theorem exists_shadowedAt (fresh : ∀ job ∈ package.filled, job.completed = false)
    (repeated : ¬package.Distinct) : ∃ slot job, package.ShadowedAt slot job := by
  apply Classical.byContradiction
  intro none
  apply repeated
  apply List.pairwise_iff_getElem.mpr
  intro earlier slot earlierInside inside before same
  rw [List.length_map] at earlierInside inside
  rw [List.getElem_map, List.getElem_map] at same
  have found := List.getElem?_eq_getElem inside
  have clear := fresh _ (List.mem_of_getElem? found)
  exact none ⟨slot, _, ⟨found, clear⟩, earlier, before, _,
    List.getElem?_eq_getElem earlierInside, same⟩

theorem pendingJobs_of_fresh
    (fresh : ∀ job ∈ package.filled, job.completed = false) :
    package.pendingJobs = package.filled := by
  apply List.filter_eq_self.mpr
  intro job member
  rw [fresh job member]
  rfl

end Package

namespace Tracker

variable {tracker : Tracker} {slot : Nat} {job : Job}

theorem handle_shadowed (shadowed : tracker.package.ShadowedAt slot job)
    {result : JobResult} {handled : Handled}
    (handles : tracker.handle result = .ok handled) :
    handled.tracker.package.ShadowedAt slot job := by
  rw [handle] at handles
  cases completed : tracker.package.completeFilled? result.number with
  | none =>
      rw [completed] at handles
      contradiction
  | some answer =>
      obtain ⟨flipped, after⟩ := answer
      rw [completed] at handles
      cases flipped with
      | true =>
          cases handles
          exact shadowed.completeFilled completed
      | false =>
          cases handles
          exact shadowed

theorem drain_shadowed (tracker : Tracker) (queue : List JobResult)
    (shadowed : tracker.package.ShadowedAt slot job) :
    (tracker.drain queue).tracker.package.ShadowedAt slot job := by
  induction queue generalizing tracker with
  | nil => exact shadowed
  | cons result queue induction =>
      cases handles : tracker.handle result with
      | error fault =>
          rw [drain, handles]
          exact shadowed
      | ok handled =>
          rw [drain_of_ok handles]
          exact induction _ (handle_shadowed shadowed handles)

/-- What draining results of jobs that are all pending has done. -/
structure Drained (package : Package) (slots : List Nat) (kept results : List JobResult)
    (progress : Progress Nat) : Prop where
  outcome : progress.outcome = .ok results.length
  kept : progress.tracker.results.Perm (results ++ kept)
  completed : ∃ more, progress.tracker.package = package.completing (slots ++ more) ∧
    ∀ result ∈ results, ∃ slot ∈ more, ∃ job,
      package.PendingAt slot job ∧ result.number = job.number

theorem drain_of_pending {package : Package} (distinct : package.Distinct)
    (results : List JobResult) (slots : List Nat) (kept : List JobResult)
    (pending : ∀ result ∈ results, ∃ slot job,
      package.PendingAt slot job ∧ slot ∉ slots ∧ result.number = job.number)
    (once : (results.map JobResult.number).Nodup)
    (fresh : ∀ other ∈ kept, ∀ result ∈ results, other.number ≠ result.number) :
    Drained package slots kept results
      (drain { package := package.completing slots, results := kept } results) := by
  induction results generalizing slots kept with
  | nil =>
      exact
        { outcome := rfl
          kept := List.Perm.refl kept
          completed := ⟨[], by rw [List.append_nil]; rfl, by simp⟩ }
  | cons result results induction =>
      obtain ⟨slot, job, slotPending, unhandled, names⟩ :=
        pending result List.mem_cons_self
      obtain ⟨apart, laterOnce⟩ := List.nodup_cons.mp once
      have handles :=
        handle_of_pending distinct slotPending unhandled kept names
      have different : ∀ other ∈ results, other.number ≠ result.number := by
        intro other member same
        apply apart
        rw [← same]
        exact List.mem_map_of_mem member
      have later := induction (slots ++ [slot]) (keep result kept)
        (by
          intro other member
          obtain ⟨otherSlot, otherJob, otherPending, otherUnhandled, otherNames⟩ :=
            pending other (List.mem_cons_of_mem result member)
          refine ⟨otherSlot, otherJob, otherPending, ?_, otherNames⟩
          intro inside
          obtain earlier | same := List.mem_append.mp inside
          · exact otherUnhandled earlier
          · cases List.mem_singleton.mp same
            apply different other member
            rw [otherNames, otherPending.unique slotPending, names])
        laterOnce
        (by
          intro other member next nextMember
          obtain rfl | earlier := mem_keep member
          · exact Ne.symm (different next nextMember)
          · exact fresh other earlier next (List.mem_cons_of_mem result nextMember))
      rw [drain_of_ok handles]
      obtain ⟨more, completed, all⟩ := later.completed
      exact
        { outcome := by
            rw [later.outcome]
            rfl
          kept := by
            have perm := keep_perm fun other member =>
              fresh other member result List.mem_cons_self
            exact (later.kept.trans (perm.append_left results)).trans
              List.perm_middle
          completed := by
            refine ⟨slot :: more, ?_, ?_⟩
            · rw [completed, List.append_assoc]
              rfl
            · intro other member
              obtain rfl | inside := List.mem_cons.mp member
              · exact ⟨slot, List.mem_cons_self, job, slotPending, names⟩
              · obtain ⟨otherSlot, otherMember, found⟩ := all other inside
                exact ⟨otherSlot, List.mem_cons_of_mem slot otherMember, found⟩ }

/-- One result for each job, in any order, completes all of them. -/
theorem drain_of_distinct {package : Package} (distinct : package.Distinct)
    (fresh : ∀ job ∈ package.filled, job.completed = false)
    {results : List JobResult}
    (named : (results.map JobResult.number).Perm (package.filled.map Job.number)) :
    (drain { package } results).outcome = .ok results.length ∧
      (drain { package } results).tracker.isFinished = true ∧
      (drain { package } results).tracker.results.Perm results := by
  have pending : ∀ result ∈ results, ∃ slot job,
      package.PendingAt slot job ∧ slot ∉ [] ∧ result.number = job.number := by
    intro result member
    obtain ⟨job, jobMember, names⟩ := List.mem_map.mp
      (named.subset (List.mem_map_of_mem member))
    obtain ⟨slot, found⟩ := List.mem_iff_getElem?.mp jobMember
    exact ⟨slot, job, ⟨found, fresh job jobMember⟩, List.not_mem_nil, names.symm⟩
  have drained := drain_of_pending distinct results [] [] pending
    (named.nodup_iff.mpr distinct) fun _ member => absurd member List.not_mem_nil
  rw [package.completing_nil] at drained
  obtain ⟨more, completed, all⟩ := drained.completed
  have kept := drained.kept
  rw [List.append_nil] at kept
  refine ⟨drained.outcome, ?_, kept⟩
  apply isFinished_iff.mpr
  apply List.eq_nil_iff_forall_not_mem.mpr
  intro slot member
  rw [completed, List.nil_append, Package.mem_pendingSlots_completing] at member
  obtain ⟨inside, unhandled⟩ := member
  obtain ⟨job, slotPending⟩ := Package.mem_pendingSlots.mp inside
  obtain ⟨result, resultMember, names⟩ := List.mem_map.mp
    (named.symm.subset (List.mem_map_of_mem (List.mem_of_getElem? slotPending.1)))
  obtain ⟨other, handled, otherJob, otherPending, otherNames⟩ := all result resultMember
  have same : other = slot :=
    distinct.slot_unique otherPending.1 slotPending.1 (otherNames.symm.trans names)
  exact unhandled (same ▸ handled)

theorem drain_finishes_iff {package : Package}
    (fresh : ∀ job ∈ package.filled, job.completed = false)
    {results : List JobResult}
    (named : (results.map JobResult.number).Perm (package.filled.map Job.number)) :
    (drain { package } results).tracker.isFinished = true ↔ package.Distinct := by
  constructor
  · intro finished
    apply Classical.byContradiction
    intro repeated
    obtain ⟨slot, job, shadowed⟩ := Package.exists_shadowedAt fresh repeated
    have unfinished := (drain_shadowed { package } results shadowed).not_finished rfl
    rw [unfinished] at finished
    contradiction
  · intro distinct
    exact (drain_of_distinct distinct fresh named).2.1

end Tracker

section Schedules

variable {package : Package} {worker : Worker} {run next : Run} {action : Action}
  {schedule : List Action} {execution : Execution} {slot : Nat} {job : Job}

/-- A run whose tracker waits for a job that it can never complete. -/
def Run.Starved (run : Run) (slot : Nat) (job : Job) : Prop :=
  run.tracker.package.ShadowedAt slot job ∧ run.watch ≠ .ended (.ok ())

theorem Step.starved (step : Step worker run action next)
    (starved : run.Starved slot job) : next.Starved slot job := by
  obtain ⟨shadowed, waits⟩ := starved
  cases step with
  | start _ => exact ⟨shadowed, waits⟩
  | report _ _ _ => exact ⟨shadowed, waits⟩
  | fail _ _ _ => exact ⟨shadowed, waits⟩
  | abandon _ _ => exact ⟨shadowed, waits⟩
  | look _ _ => exact ⟨shadowed, nofun⟩
  | leave _ finished =>
      rw [shadowed.not_finished rfl] at finished
      contradiction
  | receive _ _ handles => exact ⟨Tracker.handle_shadowed shadowed handles, nofun⟩
  | refuse _ _ _ => exact ⟨shadowed, nofun⟩
  | hangUp _ _ _ => exact ⟨shadowed, nofun⟩

theorem Follows.starved (shadowed : package.ShadowedAt slot job)
    (follows : Follows worker (.ofPackage package) schedule run) :
    run.Starved slot job := by
  induction follows with
  | refl => exact ⟨shadowed, nofun⟩
  | snoc _ step induction => exact step.starved induction

theorem Executes.not_ok (shadowed : package.ShadowedAt slot job)
    (executes : Executes package worker schedule execution)
    (results : List JobResult) : execution.outcome ≠ .ok results := by
  obtain ⟨run, follows, returns⟩ := executes
  obtain ⟨-, waits⟩ := follows.starved shadowed
  cases returns with
  | failed _ _ _ => exact nofun
  | refused _ _ _ => exact nofun
  | collected _ ended _ => exact absurd ended waits

section Answered

variable (fresh : ∀ job ∈ package.filled, job.completed = false)
  (succeeds : ∀ job ∈ package.filled, ∃ data, worker job = .ok data)
  (executes : Executes package worker schedule execution)
include fresh succeeds executes

theorem Executes.answers_all (distinct : package.Distinct) :
    ∃ results, execution.outcome = .ok results ∧
      (results.map JobResult.number).Perm (package.filled.map Job.number) := by
  have answers : ∀ job ∈ package.pendingJobs, ∃ data, worker job = .ok data := by
    rw [Package.pendingJobs_of_fresh fresh]
    exact succeeds
  obtain ⟨results, answered, collected⟩ := executes.collected distinct answers
  have numbers := answered.numbers distinct answers
  rw [Package.pendingJobs_of_fresh fresh] at numbers
  exact ⟨results, collected.outcome, numbers⟩

theorem Executes.ok_iff :
    (∃ results, execution.outcome = .ok results) ↔ package.Distinct := by
  constructor
  · rintro ⟨results, collected⟩
    apply Classical.byContradiction
    intro repeated
    obtain ⟨slot, job, shadowed⟩ := Package.exists_shadowedAt fresh repeated
    exact executes.not_ok shadowed results collected
  · intro distinct
    obtain ⟨results, collected, -⟩ := executes.answers_all fresh succeeds distinct
    exact ⟨results, collected⟩

end Answered

end Schedules

theorem Package.fresh_of_read {input rest : List UInt8} {package : Package}
    (accepted : Package.readFrame input = .value package rest) :
    ∀ job ∈ package.filled, job.completed = false := by
  intro job member
  have clear := ((Package.readFrame_inverts _ _ _).mp accepted).1.2
  exact clear job (List.mem_append_left package.free member)

/-- A package that was read can be completed if and only if its filled slots have
numbers of their own: be it by one result for each of them, in any order, or by a
worker that has an answer for each of them. -/
theorem read_package_completes_iff_distinct {input rest : List UInt8}
    {package : Package} (accepted : Package.readFrame input = .value package rest) :
    (∀ results : List JobResult,
      (results.map JobResult.number).Perm (package.filled.map Job.number) →
      let reported := Tracker.drain { package } results
      (reported.tracker.isFinished = true ↔ package.Distinct) ∧
      (package.Distinct → reported.outcome = .ok results.length ∧
        reported.tracker.results.Perm results)) ∧
    ∀ worker : Worker,
      (∀ job ∈ package.filled, ∃ data, worker job = .ok data) →
      Ends package worker ∧
      ∀ schedule execution, Executes package worker schedule execution →
        ((∃ results, execution.outcome = .ok results) ↔ package.Distinct) ∧
        (package.Distinct → ∃ results, execution.outcome = .ok results ∧
          (results.map JobResult.number).Perm (package.filled.map Job.number)) := by
  have fresh := Package.fresh_of_read accepted
  constructor
  · intro results named
    refine ⟨Tracker.drain_finishes_iff fresh named, ?_⟩
    intro distinct
    obtain ⟨outcome, -, kept⟩ := Tracker.drain_of_distinct distinct fresh named
    exact ⟨outcome, kept⟩
  · intro worker succeeds
    refine ⟨Ends.always package worker, ?_⟩
    intro schedule execution executes
    exact ⟨executes.ok_iff fresh succeeds, executes.answers_all fresh succeeds⟩

/-- The frame of a package of two filled slots with these numbers. -/
def frameOfTwo (first second : UInt8) : List UInt8 :=
  [0x4a, 0x50, 0x4b, 0x47, 1, 2, 0, 0, 0, 2, 0, 0, 0, 36, 0, 0, 0, 0, 0, 0, 0,
    0, 0, 0, 0, 0, 0, 0, 0, 0, 0, 0, 0, 0, 0, 0, 0, 0, 0, 0, 0,
    first, 0, 0, 0, 0, 0, 0, 0, second, 0, 0, 0, 0, 0, 0, 0]

/-- A frame with a repeated number is read, but a job of it stays pending after
one result for each slot, and running it fails although the worker does not. -/
theorem repeated_number_is_never_completed :
    let package : Package := { filled := [{ number := 5 }, { number := 5 }] }
    let results : List JobResult := [{ number := 5 }, { number := 5 }]
    Package.readFrame (frameOfTwo 5 5) = .value package [] ∧
    results.map JobResult.number = package.filled.map Job.number ∧
    (Tracker.drain { package } results).tracker.isFinished = false ∧
    (package.execute fun _ => .ok []).outcome =
      .error (.collection (.channelClosed 1)) :=
  ⟨rfl, rfl, rfl, rfl⟩

theorem frame_of_distinct_numbers_is_completed :
    let package : Package := { filled := [{ number := 5 }, { number := 6 }] }
    Package.readFrame (frameOfTwo 5 6) = .value package [] ∧
    (Tracker.drain { package } [{ number := 6 }, { number := 5 }]).tracker.isFinished =
      true ∧
    ∀ schedule execution, Executes package exampleWorker schedule execution →
      ∃ results, execution.outcome = .ok results := by
  intro package
  have accepted : Package.readFrame (frameOfTwo 5 6) = .value package [] := rfl
  have distinct : package.Distinct := by decide
  obtain ⟨reporting, running⟩ := read_package_completes_iff_distinct accepted
  have named : ([{ number := 6 }, { number := 5 }].map JobResult.number).Perm
      (package.filled.map Job.number) := List.Perm.swap _ _ _
  refine ⟨accepted, (reporting _ named).1.mpr distinct, ?_⟩
  intro schedule execution executes
  have answers : ∀ job ∈ package.filled, ∃ data, exampleWorker job = .ok data :=
    fun job _ => ⟨[job.number.toUInt32], rfl⟩
  exact ((running exampleWorker answers).2 schedule execution executes).1.mpr distinct

end WorkPackage
