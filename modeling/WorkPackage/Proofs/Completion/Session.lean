import WorkPackage.Proofs.Completion
import WorkPackage.Completion.Session

/-!
# Sessions at a stretch

When nothing comes in between, a tracker that drains its queue result by result, or
waits for it, comes to what it comes to at a stretch.
-/

namespace WorkPackage

namespace Session

/-- A session has come to what working off the queue at a stretch comes to. -/
structure CameTo {α : Type} (session : Session) (progress : Progress α)
    (answer : Return) (last : Session) : Prop where
  tracker : last.tracker = progress.tracker
  queue : last.queue = progress.queue
  events : last.events = session.events ++ progress.events
  task : last.task = .idle
  returns : last.returns = session.returns ++ [answer]

variable {session : Session} {result : JobResult}

theorem play_idle (idle : session.task = .idle) (count : Nat) :
    session.play (List.replicate count .goOn) = session := by
  have stays : session.turn .goOn = session := by
    rw [turn, goOn, idle]
  induction count with
  | zero => rfl
  | succ count induction => rw [List.replicate_succ, play, stays, induction]

section Taking

variable {α : Type} {queue : List JobResult} {fault : Fault} {handled : Handled}

/-- A result that is refused is the last one. -/
theorem cameTo_of_error (refuses : session.tracker.handle result = .error fault)
    (outcome : Except Fault α) (answer : Return) :
    session.CameTo { tracker := session.tracker, queue, events := [], outcome } answer
      ((session.take result queue .idle).back answer) where
  tracker := by simp [take, back, Tracking.hand, refuses]
  queue := rfl
  events := by simp [take, back, Tracking.hand, refuses]
  task := rfl
  returns := rfl

/-- After a result that is not refused comes what comes of the others. -/
theorem cameTo_of_ok (handles : session.tracker.handle result = .ok handled)
    {task : Task} {progress : Progress α} {answer : Return} {last : Session}
    (later : (session.take result queue task).CameTo progress answer last)
    (outcome : Except Fault α) :
    session.CameTo
      { progress with events := handled.event :: progress.events, outcome }
      answer last where
  tracker := later.tracker
  queue := later.queue
  events := by
    rw [later.events]
    simp [take, Tracking.hand, handles]
  task := later.task
  returns := later.returns

theorem take_tracker (handles : session.tracker.handle result = .ok handled)
    (task : Task) : (session.take result queue task).tracker = handled.tracker := by
  simp [take, Tracking.hand, handles]

end Taking

/-- The tracker comes back and has taken nothing. -/
theorem cameTo_of_back {α : Type} (outcome : Except Fault α) (answer : Return) :
    session.CameTo
      { tracker := session.tracker, queue := session.queue, events := [], outcome }
      answer (session.back answer) where
  tracker := rfl
  queue := rfl
  events := (List.append_nil _).symm
  task := rfl
  returns := rfl

theorem draining_alone {count : Nat} (drains : session.task = .draining count) :
    session.CameTo (session.tracker.drain session.queue)
      (.drained ((session.tracker.drain session.queue).outcome.map (· + count)))
      (session.play (List.replicate (session.queue.length + 1) .goOn)) := by
  generalize queued : session.queue = queue
  induction queue generalizing session count with
  | nil =>
      have ends : session.turn .goOn = session.back (.drained (.ok count)) := by
        simp only [turn, goOn, drains, queued]
      have came := session.cameTo_of_back (.ok 0) (.drained (.ok count))
      rw [queued] at came
      rw [List.length_nil, List.replicate_succ, play, ends, play_idle rfl,
        Tracker.drain]
      simpa [Except.map] using came
  | cons result queue induction =>
      rw [List.length_cons, List.replicate_succ, play]
      cases handles : session.tracker.handle result with
      | error fault =>
          have ends : session.turn .goOn =
              (session.take result queue .idle).back (.drained (.error fault)) := by
            simp only [turn, goOn, drains, queued, handles]
          rw [ends, play_idle rfl, Tracker.drain, handles]
          exact cameTo_of_error handles _ _
      | ok handled =>
          have goes : session.turn .goOn =
              session.take result queue
                (.draining (count + handled.completed.toNat)) := by
            simp only [turn, goOn, drains, queued, handles]
          have sum : ∀ outcome : Except Fault Nat,
              (outcome.map (· + handled.completed.toNat)).map (· + count) =
                outcome.map (· + (count + handled.completed.toNat)) := by
            intro outcome
            cases outcome with
            | error fault => rfl
            | ok total => simp [Except.map, Nat.add_left_comm, Nat.add_comm]
          have later := @induction
            (session.take result queue (.draining (count + handled.completed.toNat)))
            _ rfl rfl
          rw [take_tracker handles] at later
          rw [goes, Tracker.drain_of_ok handles, sum]
          exact cameTo_of_ok handles later _

/-- Draining without anything in between is draining at a stretch. -/
theorem drain_alone (idle : session.task = .idle) :
    session.CameTo (session.tracker.drain session.queue)
      (.drained (session.tracker.drain session.queue).outcome)
      (session.play (.drain :: List.replicate (session.queue.length + 1) .goOn)) := by
  have begins : session.turn .drain = { session with task := .draining 0 } := by
    simp only [turn, idle]
  have drains := @draining_alone { session with task := .draining 0 } 0 rfl
  have none : ∀ outcome : Except Fault Nat, outcome.map (· + 0) = outcome := by
    intro outcome
    cases outcome <;> rfl
  rw [none] at drains
  rw [play, begins]
  exact { drains with }

/-- No job is pending, so that nothing is taken. -/
theorem waiting_finished (looks : session.task = .looking)
    (finished : session.tracker.isFinished = true) (count : Nat) :
    session.CameTo (session.tracker.waitForAll session.queue)
      (.waited (session.tracker.waitForAll session.queue).outcome)
      (session.play (List.replicate (count + 1) .goOn)) := by
  have ends : session.turn .goOn = session.back (.waited (.ok ())) := by
    simp only [turn, goOn, looks, finished, if_true]
  rw [List.replicate_succ, play, ends, play_idle rfl,
    Tracker.waitForAll_of_finished finished]
  exact cameTo_of_back _ _

theorem waiting_alone (hungUp : session.hungUp = true)
    (looks : session.task = .looking) :
    session.CameTo (session.tracker.waitForAll session.queue)
      (.waited (session.tracker.waitForAll session.queue).outcome)
      (session.play (List.replicate (2 * session.queue.length + 2) .goOn)) := by
  generalize queued : session.queue = queue
  induction queue generalizing session with
  | nil =>
      cases finished : session.tracker.isFinished with
      | true =>
          rw [← queued]
          exact waiting_finished looks finished _
      | false =>
          have looked : session.turn .goOn = { session with task := .receiving } := by
            simp [turn, goOn, looks, finished]
          let closed : Except Fault Unit :=
            .error (.channelClosed session.tracker.package.pendingCount)
          have ends : ({ session with task := .receiving } : Session).turn .goOn =
              session.back (.waited closed) := by
            simp [turn, goOn, back, queued, hungUp, closed]
          have came := session.cameTo_of_back closed (.waited closed)
          rw [List.length_nil, List.replicate_succ, List.replicate_succ, play, looked,
            play, ends, play_idle rfl]
          rw [queued] at came
          simpa [Tracker.waitForAll, finished] using came
  | cons result queue induction =>
      cases finished : session.tracker.isFinished with
      | true =>
          rw [← queued]
          exact waiting_finished looks finished _
      | false =>
          have looked : session.turn .goOn = { session with task := .receiving } := by
            simp [turn, goOn, looks, finished]
          -- A result costs two turns: one to look, and one to take it.
          have twice : 2 * (result :: queue).length + 2 =
              2 * queue.length + 2 + 1 + 1 := by
            rw [List.length_cons]
            omega
          rw [twice, List.replicate_succ, List.replicate_succ, play, looked, play]
          cases handles : session.tracker.handle result with
          | error fault =>
              have ends : ({ session with task := .receiving } : Session).turn .goOn =
                  (session.take result queue .idle).back (.waited (.error fault)) := by
                simp only [turn, goOn, queued, handles]
                rfl
              rw [ends, play_idle rfl]
              simp only [Tracker.waitForAll, finished, handles]
              exact cameTo_of_error handles _ _
          | ok handled =>
              have goes : ({ session with task := .receiving } : Session).turn .goOn =
                  session.take result queue .looking := by
                simp only [turn, goOn, queued, handles]
                rfl
              have later :=
                @induction (session.take result queue .looking) hungUp rfl rfl
              rw [take_tracker handles] at later
              rw [goes]
              simp only [Tracker.waitForAll, finished, handles]
              exact cameTo_of_ok handles later _

/-- Waiting without anything in between, when nobody sends any more, is waiting at a
stretch. -/
theorem waitForAll_alone (idle : session.task = .idle)
    (hungUp : session.hungUp = true) :
    session.CameTo (session.tracker.waitForAll session.queue)
      (.waited (session.tracker.waitForAll session.queue).outcome)
      (session.play
        (.waitForAll :: List.replicate (2 * session.queue.length + 2) .goOn)) := by
  have begins : session.turn .waitForAll = { session with task := .looking } := by
    simp only [turn, idle]
  have waits := @waiting_alone { session with task := .looking } hungUp rfl
  rw [play, begins]
  exact { waits with }

end Session

end WorkPackage
