import WorkPackage.Proofs.Execution.Ending

/-!
# Accounts of schedules

At every point of a schedule each pending job is in one place: not started, with
a worker, reported, failed or left.  The reports are received in the order in
which they were sent, so that those handled come before those on their way, and
the state of the tracker is determined by the former.
-/

namespace WorkPackage

/-- A report: the slot of a job, and the result that was sent for it. -/
structure Delivery where
  slot : Nat
  result : JobResult

/-- A failure of the worker, and the slot of its job. -/
structure Breakdown where
  slot : Nat
  fault : RunFault

section Truth

variable (package : Package) (worker : Worker)

/-- Is it what the worker answers for a pending job? -/
def Package.Answers (delivery : Delivery) : Prop :=
  ∃ job, package.PendingAt delivery.slot job ∧
    delivery.result.number = job.number ∧ worker job = .ok delivery.result.data

/-- Is it how the worker fails on a pending job? -/
def Package.Fails (breakdown : Breakdown) : Prop :=
  ∃ job complaint, package.PendingAt breakdown.slot job ∧
    worker job = .error complaint ∧
    breakdown.fault = .worker job.number complaint

end Truth

/-- What has been done about the jobs so far. -/
structure Ledger where
  started : List Nat := []
  handled : List Delivery := []
  coming : List Delivery := []
  failed : List Breakdown := []
  abandoned : List Nat := []

namespace Ledger

def deliveries (ledger : Ledger) : List Delivery :=
  ledger.handled ++ ledger.coming

def handledSlots (ledger : Ledger) : List Nat :=
  ledger.handled.map Delivery.slot

def slots (ledger : Ledger) : Move → List Nat
  | .start => ledger.started
  | .report => ledger.deliveries.map Delivery.slot
  | .fail => ledger.failed.map Breakdown.slot
  | .abandon => ledger.abandoned

/-- Is it the same ledger but for one more move with a slot? -/
def Notes (ledger : Ledger) (move : Move) (slot : Nat) (after : Ledger) : Prop :=
  ∀ other, after.slots other =
    ledger.slots other ++ if move = other then [slot] else []

theorem notes_start (ledger : Ledger) (slot : Nat) :
    ledger.Notes .start slot
      { ledger with started := ledger.started ++ [slot] } := by
  intro other
  cases other <;> simp [slots, deliveries]

theorem notes_report (ledger : Ledger) (delivery : Delivery) :
    ledger.Notes .report delivery.slot
      { ledger with coming := ledger.coming ++ [delivery] } := by
  intro other
  cases other <;> simp [slots, deliveries]

theorem notes_fail (ledger : Ledger) (breakdown : Breakdown) :
    ledger.Notes .fail breakdown.slot
      { ledger with failed := ledger.failed ++ [breakdown] } := by
  intro other
  cases other <;> simp [slots, deliveries]

theorem notes_abandon (ledger : Ledger) (slot : Nat) :
    ledger.Notes .abandon slot
      { ledger with abandoned := ledger.abandoned ++ [slot] } := by
  intro other
  cases other <;> simp [slots, deliveries]

section Receiving

variable {ledger : Ledger} {delivery : Delivery} {rest : List Delivery}
  (coming : ledger.coming = delivery :: rest)
include coming

/-- Receiving a report is not a move of the pool. -/
theorem deliveries_receive :
    deliveries { ledger with
      handled := ledger.handled ++ [delivery], coming := rest } =
      ledger.deliveries := by
  rw [deliveries, deliveries, coming]
  exact (List.append_cons ..).symm

theorem slots_receive :
    slots { ledger with
      handled := ledger.handled ++ [delivery], coming := rest } =
      ledger.slots := by
  funext move
  cases move with
  | report => exact congrArg (List.map Delivery.slot) (deliveries_receive coming)
  | _ => rfl

end Receiving

end Ledger

/-- What the tracker relies on at its place in the loop. -/
def Run.Watched (run : Run) : Prop :=
  match run.watch with
  | .looking => True
  | .receiving => run.tracker.isFinished = false
  | .ended (.ok _) => run.tracker.isFinished = true
  | .ended (.error _) =>
      run.tracker.isFinished = false ∧ run.queue = [] ∧ run.Idle

/-- The state of a run agrees with a ledger. -/
structure Account (package : Package) (worker : Worker) (run : Run)
    (ledger : Ledger) : Prop where
  dealt : (run.waiting ++ run.running ++ ledger.slots .report ++
    ledger.slots .fail ++ ledger.slots .abandon).Perm package.pendingSlots
  started : (ledger.slots .start).Perm
    (run.running ++ ledger.slots .report ++ ledger.slots .fail)
  answered : ∀ delivery ∈ ledger.deliveries, package.Answers worker delivery
  queued : run.queue = ledger.coming.map Delivery.result
  completed : run.tracker.package = package.completing ledger.handledSlots
  collected : run.tracker.results.Perm (ledger.handled.map Delivery.result)
  ascending : run.tracker.results.Pairwise (·.number < ·.number)
  told : run.events = .packageStart package.pendingCount ::
    ledger.handled.map fun delivery => .jobCompleted delivery.result.number
  failing : ∀ breakdown ∈ ledger.failed, package.Fails worker breakdown
  failures : run.failures = ledger.failed.map Breakdown.fault
  blamed : ledger.abandoned ≠ [] → run.failures ≠ []
  watched : run.Watched

variable {package : Package} {worker : Worker} {run next : Run}
  {ledger after : Ledger} {move : Move} {slot : Nat}

theorem Run.not_idle_of_waiting (waits : slot ∈ run.waiting) : ¬run.Idle :=
  fun idle => List.ne_nil_of_mem waits idle.1

theorem Run.not_idle_of_running (runs : slot ∈ run.running) : ¬run.Idle :=
  fun idle => List.ne_nil_of_mem runs idle.2

/-- A tracker that has hung up knows that the pool is idle, so that nothing it
relies on changes while the pool is at work. -/
theorem Run.Watched.of_busy (watched : run.Watched) (busy : ¬run.Idle)
    (sameWatch : next.watch = run.watch)
    (sameTracker : next.tracker = run.tracker) : next.Watched := by
  rw [Run.Watched] at watched ⊢
  rw [sameWatch, sameTracker]
  split at watched
  · trivial
  · exact watched
  · exact watched
  · exact absurd watched.2.2 busy

theorem erase_append_perm {slots : List Nat} (inside : slot ∈ slots) :
    (slots.erase slot ++ [slot]).Perm slots :=
  List.perm_append_comm.trans (List.perm_cons_erase inside).symm

namespace Account

theorem ofPackage (package : Package) (worker : Worker) :
    Account package worker (.ofPackage package) {} where
  dealt := by
    have all : package.pendingSlots ++ [] ++ [] ++ [] ++ [] =
        package.pendingSlots := by
      simp only [List.append_nil]
    exact .of_eq all
  started := .nil
  answered := fun _ member => absurd member List.not_mem_nil
  queued := rfl
  completed := package.completing_nil.symm
  collected := .nil
  ascending := .nil
  told := rfl
  failing := fun _ member => absurd member List.not_mem_nil
  failures := rfl
  blamed := absurd rfl
  watched := trivial

section Moving

variable (account : Account package worker run ledger)
include account

/-- A job that goes out of the pool's hands is noted in one place. -/
theorem dealt_noted (notes : ledger.Notes move slot after) (leaves : move ≠ .start)
    (out : (next.waiting ++ next.running ++ [slot]).Perm
      (run.waiting ++ run.running)) :
    (next.waiting ++ next.running ++ after.slots .report ++ after.slots .fail ++
      after.slots .abandon).Perm package.pendingSlots := by
  refine (List.perm_iff_count.mpr fun other => ?_).trans account.dealt
  have counted := out.count_eq other
  rw [notes .report, notes .fail, notes .abandon]
  simp only [List.count_append] at counted ⊢
  cases move with
  | start => contradiction
  | _ =>
      simp only [reduceCtorEq, if_true, if_false, List.count_nil]
      omega

theorem started_noted (notes : ledger.Notes move slot after)
    (answered : move = .report ∨ move = .fail)
    (out : (next.running ++ [slot]).Perm run.running) :
    (after.slots .start).Perm
      (next.running ++ after.slots .report ++ after.slots .fail) := by
  have unchanged : after.slots .start = ledger.slots .start := by
    rw [notes .start]
    obtain rfl | rfl := answered <;> exact List.append_nil _
  rw [unchanged]
  refine account.started.trans (List.perm_iff_count.mpr fun other => ?_)
  have counted := out.count_eq other
  rw [notes .report, notes .fail]
  simp only [List.count_append] at counted ⊢
  obtain rfl | rfl := answered <;>
    simp only [reduceCtorEq, if_true, if_false, List.count_nil] <;>
    omega

theorem reported_apart :
    (run.waiting ++ run.running ++ ledger.slots .report).Nodup := by
  have all := account.dealt.nodup_iff.mpr package.pendingSlots_nodup
  exact (List.nodup_append.mp (List.nodup_append.mp all).1).1

/-- A job that is with a worker is pending still, and not reported. -/
theorem pendingAt_of_running {job : Job} (runs : slot ∈ run.running)
    (found : run.tracker.package.filled[slot]? = some job) :
    package.PendingAt slot job := by
  have unhandled : slot ∉ ledger.handledSlots := by
    intro handled
    have reported : slot ∈ ledger.slots .report := by
      rw [Ledger.slots, Ledger.deliveries, List.map_append]
      exact List.mem_append_left _ handled
    exact (List.nodup_append.mp account.reported_apart).2.2 slot
      (List.mem_append_right _ runs) slot reported rfl
  have inside : slot ∈ package.pendingSlots := by
    apply account.dealt.subset
    simp only [List.mem_append, runs, or_true, true_or]
  obtain ⟨other, otherPending⟩ := Package.mem_pendingSlots.mp
    (Package.mem_pendingSlots_completing.mpr ⟨inside, unhandled⟩)
  rw [account.completed] at found
  have same : job = other := Option.some.inj (found.symm.trans otherPending.1)
  subst same
  exact (Package.pendingAt_completing.mp otherPending).1

theorem start (waits : slot ∈ run.waiting) :
    Account package worker
      { run with
        waiting := run.waiting.erase slot
        running := slot :: run.running }
      { ledger with started := ledger.started ++ [slot] } :=
  { account with
    dealt := by
      have moved : (run.waiting.erase slot ++ slot :: run.running).Perm
          (run.waiting ++ run.running) := by
        rw [List.append_cons]
        exact (erase_append_perm waits).append_right run.running
      exact ((((moved.append_right _).append_right _).append_right _)).trans
        account.dealt
    started := List.perm_append_comm.trans (account.started.cons slot)
    watched := account.watched.of_busy (Run.not_idle_of_waiting waits) rfl rfl }

theorem report {job : Job} {data : List UInt32} (runs : slot ∈ run.running)
    (found : run.tracker.package.filled[slot]? = some job)
    (answered : worker job = .ok data) :
    Account package worker
      { run with
        running := run.running.erase slot
        queue := run.queue ++ [{ number := job.number, data }] }
      { ledger with
        coming := ledger.coming ++
          [{ slot, result := { number := job.number, data } }] } := by
  have notes := ledger.notes_report
    { slot, result := { number := job.number, data } }
  have out := erase_append_perm runs
  exact
    { account with
      dealt := account.dealt_noted notes Move.noConfusion
        (List.append_assoc .. ▸ out.append_left run.waiting)
      started := account.started_noted notes (.inl rfl) out
      answered := by
        intro delivery member
        rw [Ledger.deliveries, ← List.append_assoc] at member
        obtain earlier | last := List.mem_append.mp member
        · exact account.answered delivery earlier
        · rw [List.mem_singleton.mp last]
          exact ⟨job, account.pendingAt_of_running runs found, rfl, answered⟩
      queued := by
        rw [List.map_append, account.queued]
        rfl
      watched := account.watched.of_busy (Run.not_idle_of_running runs) rfl rfl }

theorem fail {job : Job} {complaint : String} (runs : slot ∈ run.running)
    (found : run.tracker.package.filled[slot]? = some job)
    (failed : worker job = .error complaint) :
    Account package worker
      { run with
        running := run.running.erase slot
        failures := run.failures ++ [.worker job.number complaint] }
      { ledger with
        failed := ledger.failed ++
          [{ slot, fault := .worker job.number complaint }] } := by
  have notes := ledger.notes_fail { slot, fault := .worker job.number complaint }
  have out := erase_append_perm runs
  exact
    { account with
      dealt := account.dealt_noted notes Move.noConfusion
        (List.append_assoc .. ▸ out.append_left run.waiting)
      started := account.started_noted notes (.inr rfl) out
      failing := by
        intro breakdown member
        obtain earlier | last := List.mem_append.mp member
        · exact account.failing breakdown earlier
        · rw [List.mem_singleton.mp last]
          exact ⟨job, complaint, account.pendingAt_of_running runs found, failed,
            rfl⟩
      failures := by
        rw [List.map_append, account.failures]
        rfl
      blamed := fun _ =>
        List.append_ne_nil_of_right_ne_nil _ (List.cons_ne_nil _ _)
      watched := account.watched.of_busy (Run.not_idle_of_running runs) rfl rfl }

theorem abandon (waits : slot ∈ run.waiting) (failed : run.failures ≠ []) :
    Account package worker { run with waiting := run.waiting.erase slot }
      { ledger with abandoned := ledger.abandoned ++ [slot] } :=
  { account with
    dealt := by
      have out : (run.waiting.erase slot ++ run.running ++ [slot]).Perm
          (run.waiting ++ run.running) := by
        have aside : (run.running ++ [slot]).Perm ([slot] ++ run.running) :=
          List.perm_append_comm
        rw [List.append_assoc]
        refine (aside.append_left _).trans ?_
        rw [← List.append_assoc]
        exact (erase_append_perm waits).append_right run.running
      exact account.dealt_noted (ledger.notes_abandon slot) Move.noConfusion out
    blamed := fun _ => failed
    watched := account.watched.of_busy (Run.not_idle_of_waiting waits) rfl rfl }

theorem look (pending : run.tracker.isFinished = false) :
    Account package worker { run with watch := .receiving } ledger :=
  { account with watched := pending }

theorem leave (finished : run.tracker.isFinished = true) :
    Account package worker { run with watch := .ended (.ok ()) } ledger :=
  { account with watched := finished }

theorem hangUp {fault : Fault} (waits : run.watch = .receiving)
    (empty : run.queue = []) (idle : run.Idle) :
    Account package worker { run with watch := .ended (.error fault) } ledger :=
  { account with
    watched := by
      have watched := account.watched
      rw [Run.Watched, waits] at watched
      exact ⟨watched, empty, idle⟩ }

end Moving

section Receiving

variable {delivery : Delivery} {rest : List Delivery}
  (account : Account package worker run ledger)
  (coming : ledger.coming = delivery :: rest)
include account coming

theorem slot_unhandled : delivery.slot ∉ ledger.handledSlots := by
  have distinct := (List.nodup_append.mp account.reported_apart).2.1
  rw [Ledger.slots, Ledger.deliveries, coming, List.map_append] at distinct
  intro handled
  exact (List.nodup_append.mp distinct).2.2 delivery.slot handled delivery.slot
    List.mem_cons_self rfl

theorem answered_next : package.Answers worker delivery := by
  apply account.answered
  rw [Ledger.deliveries, coming]
  exact List.mem_append_right _ List.mem_cons_self

theorem number_fresh (distinct : package.Distinct) :
    ∀ other ∈ run.tracker.results, other.number ≠ delivery.result.number := by
  intro other kept sameNumber
  -- Two results of one number would come from one slot, reported twice.
  obtain ⟨earlier, handled, rfl⟩ :=
    List.mem_map.mp (account.collected.subset kept)
  obtain ⟨job, pending, names, -⟩ := account.answered_next coming
  obtain ⟨earlierJob, earlierPending, earlierNames, -⟩ :=
    account.answered earlier (List.mem_append_left _ handled)
  have sameSlot : earlier.slot = delivery.slot :=
    distinct.slot_unique earlierPending.1 pending.1
      (earlierNames.symm.trans (sameNumber.trans names))
  apply account.slot_unhandled coming
  rw [← sameSlot]
  exact List.mem_map_of_mem handled

/-- The tracker takes the next report, whatever was reported before it. -/
theorem handle_next (distinct : package.Distinct) :
    run.tracker.handle delivery.result =
      .ok
        { tracker :=
            { package := package.completing (ledger.handledSlots ++ [delivery.slot])
              results := Tracker.keep delivery.result run.tracker.results }
          event := .jobCompleted delivery.result.number
          completed := true } := by
  obtain ⟨job, pending, names, -⟩ := account.answered_next coming
  have tracker : run.tracker =
      { package := package.completing ledger.handledSlots
        results := run.tracker.results } := by
    rw [← account.completed]
  rw [tracker]
  exact Tracker.handle_of_pending distinct pending
    (account.slot_unhandled coming) run.tracker.results names

theorem receive (distinct : package.Distinct) {handled : Handled}
    (handles : run.tracker.handle delivery.result = .ok handled) :
    Account package worker
      { run with
        queue := rest.map Delivery.result
        tracker := handled.tracker
        watch := .looking
        events := run.events ++ [handled.event] }
      { ledger with handled := ledger.handled ++ [delivery], coming := rest } := by
  cases (account.handle_next coming distinct).symm.trans handles
  exact
    { account with
      dealt := by
        rw [Ledger.slots_receive coming]
        exact account.dealt
      started := by
        rw [Ledger.slots_receive coming]
        exact account.started
      answered := by
        rw [Ledger.deliveries_receive coming]
        exact account.answered
      queued := rfl
      completed := by
        simp only [Ledger.handledSlots, List.map_append, List.map_cons, List.map_nil]
      collected := by
        have kept := Tracker.keep_perm (account.number_fresh coming distinct)
        rw [List.map_append]
        exact (kept.trans (account.collected.cons delivery.result)).trans
          (List.perm_append_singleton _ _).symm
      ascending := Tracker.keep_ascending account.ascending
      told := by
        rw [account.told, List.map_append]
        rfl
      watched := trivial }

end Receiving

theorem coming_of_queued {result : JobResult} {queue : List JobResult}
    (account : Account package worker run ledger)
    (queued : run.queue = result :: queue) :
    ∃ delivery rest, ledger.coming = delivery :: rest ∧
      delivery.result = result ∧ rest.map Delivery.result = queue := by
  rw [account.queued] at queued
  exact List.map_eq_cons_iff.mp queued

end Account

def Ledger.Records (ledger : Ledger) (schedule : List Action) : Prop :=
  ∀ move, slotsOf move schedule = ledger.slots move

theorem slotsOf_append (move : Move) (schedule later : List Action) :
    slotsOf move (schedule ++ later) = slotsOf move schedule ++ slotsOf move later :=
  List.filterMap_append

variable {schedule : List Action}

theorem Ledger.Records.pool (records : ledger.Records schedule)
    (notes : ledger.Notes move slot after) :
    after.Records (schedule ++ [.pool move slot]) := by
  intro other
  rw [slotsOf_append, records other, notes other]
  by_cases same : move = other
  · simp only [slotsOf, same, List.filterMap_cons, if_true, List.filterMap_nil]
  · simp only [slotsOf, same, List.filterMap_cons, if_false, List.filterMap_nil]

theorem Ledger.Records.track (records : ledger.Records schedule)
    (same : after.slots = ledger.slots) :
    after.Records (schedule ++ [.track]) := by
  intro move
  rw [slotsOf_append, records move, same]
  exact List.append_nil _

theorem Step.account {action : Action} (distinct : package.Distinct)
    (account : Account package worker run ledger)
    (records : ledger.Records schedule) (step : Step worker run action next) :
    ∃ after, Account package worker next after ∧
      after.Records (schedule ++ [action]) := by
  cases step with
  | start waits =>
      exact ⟨_, account.start waits, records.pool (ledger.notes_start _)⟩
  | report runs found answered =>
      exact ⟨_, account.report runs found answered,
        records.pool (ledger.notes_report _)⟩
  | fail runs found failed =>
      exact ⟨_, account.fail runs found failed,
        records.pool (ledger.notes_fail _)⟩
  | abandon waits failed =>
      exact ⟨_, account.abandon waits failed,
        records.pool (ledger.notes_abandon _)⟩
  | look _ pending => exact ⟨_, account.look pending, records.track rfl⟩
  | leave _ finished => exact ⟨_, account.leave finished, records.track rfl⟩
  | receive _ queued handles =>
      obtain ⟨delivery, rest, coming, rfl, rfl⟩ := account.coming_of_queued queued
      exact ⟨_, account.receive coming distinct handles,
        records.track (Ledger.slots_receive coming)⟩
  | refuse _ queued refuses =>
      -- What is reported belongs to a pending job, and is never refused.
      obtain ⟨delivery, rest, coming, rfl, rfl⟩ := account.coming_of_queued queued
      rw [account.handle_next coming distinct] at refuses
      contradiction
  | hangUp waits empty idle =>
      exact ⟨_, account.hangUp waits empty idle, records.track rfl⟩

theorem Follows.account (distinct : package.Distinct)
    (follows : Follows worker (.ofPackage package) schedule run) :
    ∃ ledger, Account package worker run ledger ∧ ledger.Records schedule := by
  induction follows with
  | refl =>
      refine ⟨{}, Account.ofPackage package worker, ?_⟩
      intro move
      cases move <;> rfl
  | snoc _ step induction =>
      obtain ⟨ledger, account, records⟩ := induction
      exact step.account distinct account records

end WorkPackage
