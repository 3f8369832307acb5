import WorkPackage.Proofs.Completion.Accounts
import WorkPackage.Proofs.Completion.Order
import WorkPackage.Proofs.Completion.Session
import Mathlib.Data.List.Induction

/-!
# Working off a queue

Draining and waiting both hand the results of a queue to the tracker, one after the
other from the front.  A result that names no filled slot ends either of them; it is
consumed, and what stands behind it stays queued.  Waiting looks before each result
whether a job is pending at all.  Which results were handed over determines the
tracker and the events, so that the two differ in nothing but where they stop.
-/

namespace WorkPackage

variable {tracker : Tracker} {result : JobResult} {handled : Handled}
  {queue taken left results : List JobResult} {α : Type}

namespace Tracker

/-- The tracker after it was handed results, with what came of them. -/
def given (tracker : Tracker) (results : List JobResult) : Tracking :=
  results.foldl Tracking.hand { tracker }

/-- Handing over does not look at what came of earlier results. -/
theorem foldl_hand (tracking : Tracking) (results : List JobResult) :
    results.foldl Tracking.hand tracking =
      { tracking with
        tracker := (tracking.tracker.given results).tracker
        events := tracking.events ++ (tracking.tracker.given results).events
        handed := tracking.handed ++ (tracking.tracker.given results).handed } := by
  induction results using List.reverseRecOn with
  | nil => simp [given]
  | append_singleton results result induction =>
      rw [given, List.foldl_append, List.foldl_append, induction, ← given]
      cases handles : (tracking.tracker.given results).tracker.handle result <;>
        simp [Tracking.hand, handles]

theorem given_append (tracker : Tracker) (earlier later : List JobResult) :
    (tracker.given (earlier ++ later)).tracker =
      ((tracker.given earlier).tracker.given later).tracker := by
  rw [given, List.foldl_append, foldl_hand]
  rfl

theorem given_cons (handles : tracker.handle result = .ok handled)
    (results : List JobResult) :
    tracker.given (result :: results) =
      { tracker := (handled.tracker.given results).tracker
        events := handled.event :: (handled.tracker.given results).events
        handed := { result, outcome := .ok handled.completed } ::
          (handled.tracker.given results).handed } := by
  rw [given, List.foldl_cons, foldl_hand]
  simp [Tracking.hand, handles]

theorem completions_cons (handles : tracker.handle result = .ok handled)
    (results : List JobResult) :
    (tracker.given (result :: results)).completions.length =
      (handled.tracker.given results).completions.length + handled.completed.toNat := by
  rw [given_cons handles, Tracking.completions, List.filterMap_cons]
  cases handled.completed <;> rfl

/-- Each result that completed its job has made one job less pending. -/
theorem pendingCount_given (tracker : Tracker) (results : List JobResult) :
    tracker.package.pendingCount =
      (tracker.given results).tracker.package.pendingCount +
        (tracker.given results).completions.length := by
  induction results using List.reverseRecOn with
  | nil => rfl
  | append_singleton results result induction =>
      obtain ⟨outcome, takes⟩ := (tracker.given results).hand_takes result
      have last : tracker.given (results ++ [result]) =
          (tracker.given results).hand result := by
        rw [given, List.foldl_append]
        rfl
      rw [last, takes.completions, List.length_append, induction]
      generalize (tracker.given results).hand result = next at takes
      cases takes with
      | @completed slot package named clear marked =>
          have inside : slot < (tracker.given results).tracker.package.added :=
            (List.findIdx?_eq_some_iff_getElem.mp named).1
          have fewer := Package.markSlot?_pendingCount marked
          simp only [inside, decide_true, Bool.and_self, Bool.toNat_true] at fewer
          simp only [Handed.completion?, Option.toList_some, List.length_singleton]
          omega
      | ignored named done => rfl
      | refused missing => rfl

section Knowing

theorem handle_of_strange (strange : ¬tracker.Knows result) :
    tracker.handle result = .error (.unknownJob result.number) := by
  rw [handle, Package.completeFilled?]
  cases completed : Package.completeFirst result.number tracker.package.filled with
  | none => rfl
  | some answer =>
      obtain ⟨slot, job, found, names, -⟩ := Package.completeFirst_eq_some completed
      have member := List.mem_map_of_mem (f := Job.number) (List.mem_of_getElem? found)
      rw [names] at member
      exact absurd member strange

/-- To handle a result does not change which results name a filled slot. -/
theorem knows_iff (handles : tracker.handle result = .ok handled) (other : JobResult) :
    handled.tracker.Knows other ↔ tracker.Knows other := by
  cases completed : Package.completeFirst result.number tracker.package.filled with
  | none =>
      rw [handle, Package.completeFilled?, completed] at handles
      contradiction
  | some answer =>
      obtain ⟨event, taken⟩ := handle_of_completeFirst completed
      cases handles.symm.trans taken
      rw [Knows, Knows, taking, Package.completeFirst_numbers completed]

theorem known_cons (handles : tracker.handle result = .ok handled)
    (knows : tracker.Knows result) (known : ∀ later ∈ results, handled.tracker.Knows later) :
    ∀ other ∈ result :: results, tracker.Knows other := by
  intro other member
  rcases List.mem_cons.mp member with rfl | behind
  · exact knows
  · exact (knows_iff handles other).mp (known other behind)

theorem knows_given (tracker : Tracker) (results : List JobResult) (other : JobResult) :
    (tracker.given results).tracker.Knows other ↔ tracker.Knows other := by
  induction results using List.reverseRecOn with
  | nil => rfl
  | append_singleton results result induction =>
      rw [given_append, ← induction, given, List.foldl_cons, List.foldl_nil, Tracking.hand]
      cases handles : (tracker.given results).tracker.handle result with
      | error fault => rfl
      | ok handled => exact knows_iff handles other

end Knowing

/-- The results in `taken` were handed over, and those in `left` are queued. -/
def progress (tracker : Tracker) (taken left : List JobResult) (outcome : Except Fault α) :
    Progress α where
  tracker := (tracker.given taken).tracker
  queue := left
  events := (tracker.given taken).events
  outcome

theorem progress_cons (handles : tracker.handle result = .ok handled)
    (taken left : List JobResult) (outcome : Except Fault α) :
    tracker.progress (result :: taken) left outcome =
      { handled.tracker.progress taken left outcome with
        events := handled.event :: (handled.tracker.progress taken left outcome).events } := by
  rw [progress, given_cons handles]
  rfl

theorem progress_strange (strange : ¬tracker.Knows result) (left : List JobResult)
    (outcome : Except Fault α) :
    tracker.progress [result] left outcome =
      { tracker, queue := left, events := [], outcome } := by
  simp [progress, given, Tracking.hand, handle_of_strange strange]

/-- How draining a queue ends. -/
inductive Drains (tracker : Tracker) (queue : List JobResult) : Progress Nat → Prop where
  | handled (known : ∀ result ∈ queue, tracker.Knows result) :
      Drains tracker queue
        (tracker.progress queue [] (.ok (tracker.given queue).completions.length))
  | refused {taken left : List JobResult} {result : JobResult}
      (parted : queue = taken ++ result :: left)
      (known : ∀ earlier ∈ taken, tracker.Knows earlier) (strange : ¬tracker.Knows result) :
      Drains tracker queue
        (tracker.progress (taken ++ [result]) left (.error (.unknownJob result.number)))

theorem Drains.cons {progress : Progress Nat} (handles : tracker.handle result = .ok handled)
    (knows : tracker.Knows result) (drains : handled.tracker.Drains queue progress) :
    tracker.Drains (result :: queue)
      { progress with
        events := handled.event :: progress.events
        outcome := progress.outcome.map (· + handled.completed.toNat) } := by
  cases drains with
  | handled known =>
      have drains := Drains.handled (known_cons handles knows known)
      rw [progress_cons handles, completions_cons handles] at drains
      exact drains
  | @refused taken left other parted known strange =>
      have drains := Drains.refused (congrArg (result :: ·) parted)
        (known_cons handles knows known)
        (fun knows => strange ((knows_iff handles other).mpr knows))
      rw [List.cons_append, progress_cons handles] at drains
      exact drains

theorem drain_drains (tracker : Tracker) (queue : List JobResult) :
    tracker.Drains queue (tracker.drain queue) := by
  induction queue generalizing tracker with
  | nil => exact .handled fun _ => nofun
  | cons result queue induction =>
      by_cases knows : tracker.Knows result
      · obtain ⟨_, _, _, -, handles⟩ := handle_of_knows knows
        rw [drain_of_ok handles]
        exact (induction _).cons handles knows
      · have nothing : ∀ earlier ∈ [], tracker.Knows earlier := fun _ member => nomatch member
        have drains := @Drains.refused _ (result :: queue) [] _ _ rfl nothing knows
        rw [List.nil_append] at drains
        rw [progress_strange knows] at drains
        rw [drain, handle_of_strange knows]
        exact drains

/-- Each of these results names a filled slot, and before it is handed over a job is
pending. -/
def Passes (tracker : Tracker) (taken : List JobResult) : Prop :=
  ∀ before result behind, taken = before ++ result :: behind →
    (tracker.given before).tracker.isFinished = false ∧ tracker.Knows result

theorem Passes.known (passes : tracker.Passes taken) :
    ∀ result ∈ taken, tracker.Knows result := by
  intro result member
  obtain ⟨before, behind, parted⟩ := List.append_of_mem member
  exact (passes before result behind parted).2

theorem Passes.cons (handles : tracker.handle result = .ok handled)
    (knows : tracker.Knows result) (pending : tracker.isFinished = false)
    (passes : handled.tracker.Passes taken) : tracker.Passes (result :: taken) := by
  intro before other behind parted
  cases before with
  | nil =>
      cases parted
      exact ⟨pending, knows⟩
  | cons first before =>
      cases parted
      obtain ⟨stillPending, knowsOther⟩ := passes before other behind rfl
      rw [given_cons handles]
      exact ⟨stillPending, (knows_iff handles other).mp knowsOther⟩

/-- How waiting ends when nobody sends any more: at the first of these that
applies. -/
inductive Waits (tracker : Tracker) (queue : List JobResult) : Progress Unit → Prop where
  | finished {taken left : List JobResult} (parted : queue = taken ++ left)
      (passes : tracker.Passes taken)
      (finished : (tracker.given taken).tracker.isFinished = true) :
      Waits tracker queue (tracker.progress taken left (.ok ()))
  | refused {taken left : List JobResult} {result : JobResult}
      (parted : queue = taken ++ result :: left) (passes : tracker.Passes taken)
      (pending : (tracker.given taken).tracker.isFinished = false)
      (strange : ¬tracker.Knows result) :
      Waits tracker queue
        (tracker.progress (taken ++ [result]) left (.error (.unknownJob result.number)))
  | closed (passes : tracker.Passes queue)
      (pending : (tracker.given queue).tracker.isFinished = false) :
      Waits tracker queue
        (tracker.progress queue []
          (.error (.channelClosed (tracker.given queue).tracker.package.pendingCount)))

theorem Waits.cons {progress : Progress Unit} (handles : tracker.handle result = .ok handled)
    (knows : tracker.Knows result) (pending : tracker.isFinished = false)
    (waits : handled.tracker.Waits queue progress) :
    tracker.Waits (result :: queue)
      { progress with events := handled.event :: progress.events } := by
  have further : ∀ taken, tracker.given (result :: taken) = _ := given_cons handles
  cases waits with
  | @finished taken left parted passes finished =>
      have waits := Waits.finished (congrArg (result :: ·) parted)
        (passes.cons handles knows pending) (by rwa [further])
      rw [progress_cons handles] at waits
      exact waits
  | @refused taken left other parted passes stillPending strange =>
      have waits := Waits.refused (congrArg (result :: ·) parted)
        (passes.cons handles knows pending) (by rwa [further])
        (fun knows => strange ((knows_iff handles other).mpr knows))
      rw [List.cons_append, progress_cons handles] at waits
      exact waits
  | closed passes stillPending =>
      have waits := Waits.closed (passes.cons handles knows pending) (by rwa [further])
      rw [progress_cons handles, further] at waits
      exact waits

theorem passes_nil (tracker : Tracker) : tracker.Passes [] := by
  intro before result behind parted
  cases before <;> contradiction

theorem waitForAll_waits (tracker : Tracker) (queue : List JobResult) :
    tracker.Waits queue (tracker.waitForAll queue) := by
  induction queue generalizing tracker with
  | nil =>
      cases finished : tracker.isFinished with
      | true =>
          rw [waitForAll_of_finished finished]
          exact .finished rfl tracker.passes_nil finished
      | false =>
          rw [waitForAll, finished]
          exact .closed tracker.passes_nil finished
  | cons result queue induction =>
      cases finished : tracker.isFinished with
      | true =>
          rw [waitForAll_of_finished finished]
          exact .finished rfl tracker.passes_nil finished
      | false =>
          rw [waitForAll, finished]
          by_cases knows : tracker.Knows result
          · obtain ⟨_, _, _, -, handles⟩ := handle_of_knows knows
            simp only [handles]
            exact (induction _).cons handles knows finished
          · have waits :=
              @Waits.refused _ (result :: queue) [] _ _ rfl tracker.passes_nil finished knows
            rw [List.nil_append, progress_strange knows] at waits
            simp only [handle_of_strange knows]
            exact waits

section Known

variable (known : ∀ result ∈ queue, tracker.Knows result)
include known

theorem drain_tracker : (tracker.drain queue).tracker = (tracker.given queue).tracker := by
  have drains := tracker.drain_drains queue
  generalize tracker.drain queue = progress at drains
  cases drains with
  | handled _ => rfl
  | @refused taken left result parted _ strange =>
      rw [parted] at known
      exact absurd (known result (List.mem_append_right taken List.mem_cons_self)) strange

/-- What waiting leaves in the queue is what draining then hands over. -/
theorem drain_after_waitForAll :
    ((tracker.waitForAll queue).tracker.drain (tracker.waitForAll queue).queue).tracker =
      (tracker.drain queue).tracker := by
  rw [drain_tracker known]
  have waits := tracker.waitForAll_waits queue
  generalize tracker.waitForAll queue = progress at waits
  cases waits with
  | @finished taken left parted passes finished =>
      rw [parted] at known ⊢
      have leftKnown : ∀ result ∈ left, (tracker.given taken).tracker.Knows result := by
        intro result member
        exact (knows_given tracker taken result).mpr
          (known result (List.mem_append_right taken member))
      exact (drain_tracker leftKnown).trans (given_append tracker taken left).symm
  | @refused taken left result parted passes pending strange =>
      rw [parted] at known
      exact absurd (known result (List.mem_append_right taken List.mem_cons_self)) strange
  | closed passes pending => rfl

end Known

end Tracker

/-- Draining and waiting hand over the results of a queue from the front, each up to
where it has to stop: the first result that names no filled slot, the end of the
queue and, for waiting, the moment when no job is pending.  What is behind stays
queued, and draining it afterwards comes to what draining alone comes to.  This holds
for a tracker that takes one result at a time as well, so that waiting comes to an
end as soon as nobody can send any more. -/
theorem queue_is_handled_from_the_front (tracker : Tracker) (queue : List JobResult) :
    let drained := tracker.drain queue
    let waited := tracker.waitForAll queue
    tracker.Drains queue drained ∧
    tracker.Waits queue waited ∧
    (∀ results, tracker.package.pendingCount =
      (tracker.given results).tracker.package.pendingCount +
        (tracker.given results).completions.length) ∧
    (∀ session : Session, session.task = .idle →
      session.tracker = tracker → session.queue = queue →
        session.CameTo drained (.drained drained.outcome)
          (session.play (.drain :: List.replicate (queue.length + 1) .goOn)) ∧
        (session.hungUp = true →
          session.CameTo waited (.waited waited.outcome)
            (session.play (.waitForAll :: List.replicate (2 * queue.length + 2) .goOn)))) ∧
    ((∀ result ∈ queue, tracker.Knows result) →
      (waited.tracker.drain waited.queue).tracker = drained.tracker) := by
  refine ⟨tracker.drain_drains queue, tracker.waitForAll_waits queue,
    tracker.pendingCount_given, ?_, Tracker.drain_after_waitForAll⟩
  rintro session idle rfl rfl
  exact ⟨Session.drain_alone idle, Session.waitForAll_alone idle⟩

/-- Waiting stops before a second result for the job that was pending last, and does
not get to the one that names no slot. -/
example :
    let tracker : Tracker :=
      { package := { filled := [{ number := 7 }, { number := 2, completed := true }] } }
    let queue : List JobResult :=
      [{ number := 2 }, { number := 7 }, { number := 7 }, { number := 4 }]
    let waited := tracker.waitForAll queue
    let drained := tracker.drain queue
    waited.events = [.duplicateIgnored 2, .jobCompleted 7] ∧ waited.queue = queue.drop 2 ∧
      drained.queue = [] ∧ drained.outcome = .error (.unknownJob 4) ∧
      waited.tracker = drained.tracker := by
  decide

end WorkPackage
