import WorkPackage.Proofs.Marking.Call

/-!
# Interleavings of callers

As the job numbers alone determine the slot of a call, a slot that was found stays
the right one, whoever gets ahead.  So the callers get the replies that they would
get if their calls were made one after the other, in the order in which they were
answered, and what is counted for one call after the other is counted for all
interleavings.
-/

namespace WorkPackage

namespace Traffic

variable {package : Package} {traffic after : Traffic}
  {calls : List (List Marking)} {caller : Nat}

/-- Every caller that has found a slot has found the one for its call. -/
def Found (traffic : Traffic) : Prop :=
  ∀ (caller : Nat) (marking : Marking) (slot : Nat) (calls : List Marking),
    traffic.callers[caller]? = some (.within marking slot calls) →
      marking.target? traffic.package = some slot

/-- What a turn can do: with the reply, a call is made all at once. -/
inductive Turn (traffic : Traffic) (caller : Nat) : Traffic → Prop where
  | pass (done : traffic.callsOf caller = []) : Turn traffic caller traffic
  | find {marking : Marking} {slot : Nat} {calls : List Marking}
      (waits : traffic.callers[caller]? = some (.between (marking :: calls)))
      (finds : marking.target? traffic.package = some slot) :
      Turn traffic caller
        { traffic with
          callers := traffic.callers.set caller (.within marking slot calls) }
  | answer {state : Caller} {marking : Marking} {calls : List Marking}
      (waits : traffic.callers[caller]? = some state)
      (makes : state.calls = marking :: calls) :
      Turn traffic caller
        (traffic.answer caller marking calls (traffic.package.call marking).1
          (traffic.package.call marking).2)

theorem Found.turn (found : traffic.Found) (caller : Nat) :
    traffic.Turn caller (traffic.turn caller) := by
  unfold Traffic.turn
  cases waits : traffic.callers[caller]? with
  | none => exact .pass (by simp [callsOf, waits])
  | some state =>
      cases state with
      | between calls =>
          cases calls with
          | nil => exact .pass (by simp [callsOf, waits, Caller.calls])
          | cons marking calls =>
              cases finds : marking.target? traffic.package with
              | none =>
                  have answers := Turn.answer waits rfl
                  rw [Package.call_eq, finds] at answers
                  simpa [finds] using answers
              | some slot =>
                  simpa [finds] using Turn.find waits finds
      | within marking slot calls =>
          have finds := found caller marking slot calls waits
          obtain ⟨flipped, next, marked⟩ :=
            Package.markSlot?_of_lt (Package.target?_lt finds)
          have answers := Turn.answer waits rfl
          rw [Package.call_eq, finds, Option.bind_some, marked] at answers
          simpa [marked] using answers

/-- The callers make their calls in their orders, and get the replies that they
would get one after the other. -/
structure Serves (first : Package) (calls : List (List Marking))
    (traffic : Traffic) : Prop where
  found : traffic.Found
  serial : first.callEach (traffic.answers.map Answered.marking) =
    (traffic.answers.map Answered.reply, traffic.package)
  ordered : ∀ caller,
    traffic.answeredOf caller ++ traffic.callsOf caller = (calls[caller]?).getD []

theorem serves_ofCalls (package : Package) (calls : List (List Marking)) :
    (ofCalls package calls).Serves package calls where
  found := by
    intro caller marking slot later waits
    rw [ofCalls, List.getElem?_map] at waits
    simp at waits
  serial := rfl
  ordered := by
    intro caller
    rw [callsOf, ofCalls, List.getElem?_map]
    cases calls[caller]? <;> rfl

theorem callsOf_set {state new : Caller}
    (waits : traffic.callers[caller]? = some state)
    (sets : after.callers = traffic.callers.set caller new) (other : Nat) :
    after.callsOf other =
      if caller = other then new.calls else traffic.callsOf other := by
  have inside := (List.getElem?_eq_some_iff.mp waits).1
  rw [callsOf, sets, List.getElem?_set]
  by_cases same : caller = other
  · rw [if_pos same, if_pos same, if_pos inside]
    rfl
  · rw [if_neg same, if_neg same, callsOf]

theorem answeredOf_answer (traffic : Traffic) (caller : Nat) (marking : Marking)
    (calls : List Marking) (reply : Reply) (package : Package) (other : Nat) :
    (traffic.answer caller marking calls reply package).answeredOf other =
      traffic.answeredOf other ++ if caller = other then [marking] else [] := by
  by_cases same : caller = other <;>
    simp [answeredOf, answer, List.filter_append, same]

theorem Turn.serves (turns : traffic.Turn caller after)
    (serves : traffic.Serves package calls) : after.Serves package calls := by
  cases turns with
  | pass done => exact serves
  | @find marking slot later waits finds =>
      exact
        { found := by
            intro other otherMarking otherSlot otherCalls otherWaits
            rw [List.getElem?_set] at otherWaits
            split at otherWaits
            · split at otherWaits
              · cases otherWaits
                exact finds
              · contradiction
            · exact serves.found other otherMarking otherSlot otherCalls otherWaits
          serial := serves.serial
          ordered := by
            intro other
            rw [callsOf_set waits rfl, ← serves.ordered other]
            by_cases same : caller = other
            · subst same
              simp [callsOf, waits, Caller.calls, answeredOf]
            · simp [same, answeredOf] }
  | @answer state marking later waits makes =>
      exact
        { found := by
            intro other otherMarking otherSlot otherCalls otherWaits
            rw [Traffic.answer, List.getElem?_set] at otherWaits
            split at otherWaits
            · split at otherWaits <;> cases otherWaits
            -- The others still have the right slots, since no number has changed.
            · rw [← serves.found other otherMarking otherSlot otherCalls otherWaits]
              exact Package.target?_of_pending (Package.call_pending _ _) otherMarking
          serial := by
            simp only [Traffic.answer, List.map_append, List.map_cons, List.map_nil]
            rw [Package.callEach_append, serves.serial]
          ordered := by
            intro other
            rw [callsOf_set waits rfl, answeredOf_answer, ← serves.ordered other]
            by_cases same : caller = other
            · subst same
              simp only [callsOf, waits, Option.elim_some, makes]
              simp [Caller.calls]
            · simp [same] }

theorem Serves.play (serves : traffic.Serves package calls) (schedule : List Nat) :
    (traffic.play schedule).Serves package calls := by
  induction schedule generalizing traffic with
  | nil => exact serves
  | cons caller schedule induction =>
      exact induction ((serves.found.turn caller).serves serves)

theorem Turn.keeps_flags (turns : traffic.Turn caller after) {slot : Nat}
    (completed : traffic.package.isCompleted slot = true) :
    after.package.isCompleted slot = true := by
  cases turns with
  | pass done => exact completed
  | find waits finds => exact completed
  | answer waits makes => exact Package.call_keeps_flags traffic.package _ completed

/-- A call is refused if there is no slot for it, and then nothing changes. -/
theorem Turn.refused (turns : traffic.Turn caller after) {marking : Marking}
    {fault : Fault}
    (answers : after.answers =
      traffic.answers ++ [{ caller, marking, reply := .refused fault }]) :
    marking.target? traffic.package = none ∧ after.package = traffic.package := by
  cases turns with
  | pass done => simp at answers
  | find waits finds => simp at answers
  | answer waits makes =>
      have answered := List.append_cancel_left answers
      simp only [List.cons.injEq, Answered.mk.injEq, true_and, and_true] at answered
      obtain ⟨rfl, refused⟩ := answered
      exact Package.call_refused refused

section Counting

variable (serves : traffic.Serves package calls)
include serves

theorem Serves.target?_eq (marking : Marking) :
    marking.target? traffic.package = marking.target? package := by
  apply Package.target?_of_pending
  have same := Package.callEach_pending package (traffic.answers.map Answered.marking)
  rw [serves.serial] at same
  exact same

theorem Serves.flipped_once (slot : Nat) :
    let flips := traffic.answers.countP
      (Answered.flipsIn package fun index => index = slot)
    flips ≤ 1 ∧
    (flips = 1 ↔
      package.isCompleted slot = false ∧ traffic.package.isCompleted slot = true) := by
  intro flips
  have ledger : (!package.isCompleted slot).toNat =
      (!traffic.package.isCompleted slot).toNat + flips :=
    (Package.counts_uncompleted package slot).callEach rfl serves.serial
  cases first : package.isCompleted slot with
  | true =>
      rw [first] at ledger
      have none : flips = 0 := (Nat.add_eq_zero_iff.mp ledger.symm).2
      simp [none]
  | false =>
      rw [first] at ledger
      cases last : traffic.package.isCompleted slot with
      | true =>
          rw [last] at ledger
          have one : flips = 1 := by simpa using ledger.symm
          simp [one]
      | false =>
          rw [last] at ledger
          have none : flips = 0 := by simpa using ledger
          simp [none]

end Counting

end Traffic

/-- However the callers interleave, completion is counted once.  No turn clears a
flag, and none that refuses a call changes anything.  At most one call sets the
flag of a slot, and one does if it was clear before and is set now; so the slots
that are left, and the pending ones, are fewer by as many as there were calls
that answered `true`.  The replies are those of one call after the other, each
caller's in its order. -/
theorem completion_is_counted_once (package : Package) (calls : List (List Marking))
    (schedule : List Nat) :
    let traffic := (Traffic.ofCalls package calls).play schedule
    (∀ caller slot, traffic.package.isCompleted slot = true →
      (traffic.turn caller).package.isCompleted slot = true) ∧
    (∀ caller marking fault,
      (traffic.turn caller).answers =
        traffic.answers ++ [{ caller, marking, reply := .refused fault }] →
      marking.target? package = none ∧
        (traffic.turn caller).package = traffic.package) ∧
    (∀ slot,
      let flips := traffic.answers.countP
        (Answered.flipsIn package fun index => index = slot)
      flips ≤ 1 ∧
      (flips = 1 ↔
        package.isCompleted slot = false ∧ traffic.package.isCompleted slot = true)) ∧
    package.remainingCount =
      traffic.package.remainingCount + traffic.answers.countP Answered.flips ∧
    package.pendingCount =
      traffic.package.pendingCount +
        traffic.answers.countP
          (Answered.flipsIn package fun slot => slot < package.added) ∧
    package.callEach (traffic.answers.map Answered.marking) =
      (traffic.answers.map Answered.reply, traffic.package) ∧
    ∀ caller,
      traffic.answeredOf caller ++ traffic.callsOf caller =
        (calls[caller]?).getD [] := by
  intro traffic
  have serves := (Traffic.serves_ofCalls package calls).play schedule
  refine ⟨?_, ?_, serves.flipped_once,
    (Package.counts_remaining package).callEach rfl serves.serial,
    (Package.counts_pending package).callEach rfl serves.serial,
    serves.serial, serves.ordered⟩
  · intro caller slot
    exact (serves.found.turn caller).keeps_flags
  · intro caller marking fault answers
    rw [← serves.target?_eq marking]
    exact (serves.found.turn caller).refused answers

/-- Two filled slots with one number, and a free one. -/
def exampleShared : Package where
  filled := [{ number := 7 }, { number := 7 }]
  free := [{ number := 9 }]

def exampleCalls : List (List Marking) :=
  [[.byNumber 7, .byResult [] { number := 9 }],
    [.byResult [] { number := 7 }, .bySlot 2]]

/-- Both callers have found the first slot when the second one swaps its flag, and
the first one comes too late.  Its other call is refused then, as a result for a free
slot. -/
theorem example_callers_count_once :
    let traffic := (Traffic.ofCalls exampleShared exampleCalls).play [0, 1, 1, 0]
    traffic.answers.map Answered.reply = [.swapped true, .swapped false] ∧
    exampleShared.remainingCount = traffic.package.remainingCount + 1 ∧
    traffic.package.isCompleted 0 = true ∧
    (traffic.turn 0).package.isCompleted 0 = true ∧
    (traffic.turn 0).answers =
      traffic.answers ++
        [{ caller := 0
           marking := .byResult [] { number := 9 }
           reply := .refused (.unknownJob 9) }] ∧
    (traffic.turn 0).package = traffic.package := by
  intro traffic
  obtain ⟨kept, refused, -, remaining, -⟩ :=
    completion_is_counted_once exampleShared exampleCalls [0, 1, 1, 0]
  have completed : traffic.package.isCompleted 0 = true := by decide
  have answers : (traffic.turn 0).answers =
      traffic.answers ++
        [{ caller := 0
           marking := .byResult [] { number := 9 }
           reply := .refused (.unknownJob 9) }] := by decide
  exact ⟨by decide, remaining, completed, kept 0 0 completed, answers,
    (refused 0 _ _ answers).2⟩

end WorkPackage
