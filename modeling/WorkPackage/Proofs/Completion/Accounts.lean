import WorkPackage.Proofs.Marking.Call
import WorkPackage.Completion.Session

/-!
# Accounts of a tracker

A result that a tracker is handed does one of three things: it completes the
first filled slot with its number, it is ignored because that slot is completed,
or it is refused because there is none.  Nothing else that a tracker does touches
its package, its results or its events, and what others do touches only flags.
So from turn to turn the results kept are the first ones for their numbers, the
events tell what the results came to, and the slots that are not pending any more
are those of the results and those that others have marked.
-/

namespace WorkPackage

variable {package : Package} {result : JobResult}

theorem Handed.completion?_eq_some_iff {handed : Handed} :
    handed.completion? = some result ↔ handed = { result, outcome := .ok true } := by
  obtain ⟨other, outcome⟩ := handed
  rcases outcome with fault | completed
  · simp [completion?]
  · cases completed <;> simp [completion?]

theorem Handed.event?_completed? (handed : Handed) :
    handed.event?.bind Event.completed? = handed.completion?.map JobResult.number := by
  obtain ⟨result, outcome⟩ := handed
  rcases outcome with fault | completed
  · rfl
  · cases completed <;> rfl

theorem Answered.countP_concat (counted : Answered → Bool) (answers : List Answered)
    (answered : Answered) :
    (answers ++ [answered]).countP counted =
      answers.countP counted + (counted answered).toNat := by
  rw [List.countP_append, List.countP_singleton]
  cases counted answered <;> rfl

theorem Package.markSlot?_free_of_filled {next : Package} {slot : Nat} {flipped : Bool}
    (marked : package.markSlot? slot = some (flipped, next))
    (filled : slot < package.added) : next.free = package.free := by
  obtain ⟨job, _, same⟩ := Option.map_eq_some_iff.mp marked
  cases same
  exact if_pos filled

namespace Tracking

variable {tracking next : Tracking} {outcome : Except Fault Bool} {turn : Turn}

/-- What becomes of a result that a tracker is handed. -/
inductive Takes (tracking : Tracking) (result : JobResult) :
    Except Fault Bool → Tracking → Prop where
  | completed {slot : Nat} {package : Package}
      (named : tracking.tracker.package.filledSlot? result.number = some slot)
      (clear : tracking.tracker.package.isCompleted slot = false)
      (marked : tracking.tracker.package.markSlot? slot = some (true, package)) :
      Takes tracking result (.ok true)
        { tracking with
          tracker :=
            { package
              results := Tracker.keep result tracking.tracker.results }
          events := tracking.events ++ [.jobCompleted result.number]
          handed := tracking.handed ++ [{ result, outcome := .ok true }] }
  | ignored {slot : Nat}
      (named : tracking.tracker.package.filledSlot? result.number = some slot)
      (done : tracking.tracker.package.isCompleted slot = true) :
      Takes tracking result (.ok false)
        { tracking with
          events := tracking.events ++ [.duplicateIgnored result.number]
          handed := tracking.handed ++ [{ result, outcome := .ok false }] }
  | refused (missing : tracking.tracker.package.filledSlot? result.number = none) :
      Takes tracking result (.error (.unknownJob result.number))
        { tracking with
          handed := tracking.handed ++
            [{ result, outcome := .error (.unknownJob result.number) }] }

theorem hand_takes (tracking : Tracking) (result : JobResult) :
    ∃ outcome, tracking.Takes result outcome (tracking.hand result) := by
  rw [hand, Tracker.handle, Package.completeFilled?_eq]
  cases named : tracking.tracker.package.filledSlot? result.number with
  | none => exact ⟨_, .refused named⟩
  | some slot =>
      have finds : (Marking.byResult [] result).target? tracking.tracker.package =
          some slot := named
      obtain ⟨flipped, package, marked⟩ :=
        Package.markSlot?_of_lt (Package.target?_lt finds)
      have was := Package.markSlot?_was marked
      rw [Option.bind_some, marked]
      cases flipped with
      | true => exact ⟨_, .completed named was marked⟩
      | false => exact ⟨_, .ignored named was⟩

theorem Takes.handed (takes : tracking.Takes result outcome next) :
    next.handed = tracking.handed ++ [{ result, outcome := outcome }] := by
  cases takes <;> rfl

theorem Takes.pending (takes : tracking.Takes result outcome next) :
    next.tracker.package.pending = tracking.tracker.package.pending := by
  cases takes with
  | completed named clear marked => exact Package.markSlot?_pending marked
  | ignored named done => rfl
  | refused missing => rfl

theorem Takes.keeps_flags (takes : tracking.Takes result outcome next) {slot : Nat}
    (completed : tracking.tracker.package.isCompleted slot = true) :
    next.tracker.package.isCompleted slot = true := by
  cases takes with
  | completed named clear marked =>
      rw [Package.markSlot?_isCompleted marked, completed, Bool.true_or]
  | ignored named done => exact completed
  | refused missing => exact completed

theorem Takes.free (takes : tracking.Takes result outcome next) :
    next.tracker.package.free = tracking.tracker.package.free := by
  cases takes with
  | completed named clear marked =>
      have inside := (List.findIdx?_eq_some_iff_getElem.mp named).1
      exact Package.markSlot?_free_of_filled marked inside
  | ignored named done => rfl
  | refused missing => rfl

/-- However a result was taken, the slot that it names is completed then. -/
theorem Takes.settles (takes : tracking.Takes result outcome next) {slot : Nat}
    (named : tracking.tracker.package.filledSlot? result.number = some slot) :
    next.tracker.package.isCompleted slot = true := by
  cases takes with
  | @completed other _ otherNamed clear marked =>
      cases otherNamed.symm.trans named
      rw [Package.markSlot?_isCompleted marked]
      simp
  | @ignored other otherNamed done =>
      cases otherNamed.symm.trans named
      exact done
  | refused missing =>
      rw [missing] at named
      contradiction

theorem Takes.events (takes : tracking.Takes result outcome next) :
    next.events =
      tracking.events ++ ({ result, outcome := outcome } : Handed).event?.toList := by
  cases takes with
  | completed named clear marked => rfl
  | ignored named done => rfl
  | refused missing => simp [Handed.event?]

theorem Takes.completions (takes : tracking.Takes result outcome next) :
    next.completions =
      tracking.completions ++
        ({ result, outcome := outcome } : Handed).completion?.toList := by
  rw [Tracking.completions, takes.handed, List.filterMap_append]
  cases completion : ({ result, outcome := outcome } : Handed).completion? <;>
    simp [completion, Tracking.completions]

/-- What is known of a tracker and its package, which was `first` in the
beginning. -/
structure Accounts (first : Package) (tracking : Tracking) : Prop where
  same : tracking.tracker.package.pending = first.pending
  ascending : tracking.tracker.results.Pairwise (·.number < ·.number)
  kept : tracking.tracker.results.Perm tracking.completions
  firsts : tracking.handed.Pairwise fun earlier later =>
    later.outcome = .ok true → earlier.result.number ≠ later.result.number
  named : ∀ result ∈ tracking.completions,
    (first.filledSlot? result.number).isSome = true
  settled : ∀ handed ∈ tracking.handed, ∀ slot,
    first.filledSlot? handed.result.number = some slot →
      tracking.tracker.package.isCompleted slot = true
  told : tracking.events = tracking.handed.filterMap Handed.event?
  counted : first.pendingCount =
    tracking.tracker.package.pendingCount + tracking.tracker.results.length +
      tracking.outside.countP
        (Answered.flipsIn first fun slot => slot < first.added)

theorem accounts_ofPackage (package : Package) :
    Accounts package { tracker := { package } } where
  same := rfl
  ascending := .nil
  kept := .refl _
  firsts := .nil
  named := by simp [completions]
  settled := by simp
  told := rfl
  counted := rfl

theorem Accounts.filledSlot?_eq {first : Package} (accounts : tracking.Accounts first)
    (number : Int32) :
    tracking.tracker.package.filledSlot? number = first.filledSlot? number := by
  rw [← Package.filledSlot?_pending, accounts.same, Package.filledSlot?_pending]

/-- A job that is not completed has had no result yet. -/
theorem Accounts.fresh {first : Package} (accounts : tracking.Accounts first)
    {slot : Nat}
    (named : tracking.tracker.package.filledSlot? result.number = some slot)
    (clear : tracking.tracker.package.isCompleted slot = false) :
    ∀ earlier ∈ tracking.handed, earlier.result.number ≠ result.number := by
  intro earlier member same
  rw [accounts.filledSlot?_eq, ← same] at named
  have completed := accounts.settled earlier member slot named
  rw [clear] at completed
  contradiction

theorem Accounts.fresh_results {first : Package} (accounts : tracking.Accounts first)
    {slot : Nat}
    (named : tracking.tracker.package.filledSlot? result.number = some slot)
    (clear : tracking.tracker.package.isCompleted slot = false) :
    ∀ other ∈ tracking.tracker.results, other.number ≠ result.number := by
  intro other member
  have completion := accounts.kept.subset member
  obtain ⟨earlier, inside, completes⟩ := List.mem_filterMap.mp completion
  rw [Handed.completion?_eq_some_iff] at completes
  have apart := accounts.fresh named clear earlier inside
  rw [completes] at apart
  exact apart

theorem Accounts.take {first : Package} (accounts : tracking.Accounts first)
    (takes : tracking.Takes result outcome next) : next.Accounts first where
  same := takes.pending.trans accounts.same
  ascending := by
    cases takes with
    | completed named clear marked => exact Tracker.keep_ascending accounts.ascending
    | ignored named done => exact accounts.ascending
    | refused missing => exact accounts.ascending
  kept := by
    rw [takes.completions]
    cases takes with
    | completed named clear marked =>
        have added := Tracker.keep_perm (accounts.fresh_results named clear)
        apply added.trans
        apply (accounts.kept.cons result).trans
        exact (List.perm_append_singleton result tracking.completions).symm
    | ignored named done => simpa [Handed.completion?] using accounts.kept
    | refused missing => simpa [Handed.completion?] using accounts.kept
  firsts := by
    rw [takes.handed]
    apply List.pairwise_append.mpr
    refine ⟨accounts.firsts, List.pairwise_singleton _ _, ?_⟩
    intro earlier member later isLater completes
    cases List.mem_singleton.mp isLater
    cases takes with
    | completed named clear marked => exact accounts.fresh named clear earlier member
    | ignored named done => simp at completes
    | refused missing => simp at completes
  named := by
    rw [takes.completions]
    intro other member
    rcases List.mem_append.mp member with earlier | last
    · exact accounts.named other earlier
    · cases takes with
      | completed named clear marked =>
          cases List.mem_singleton.mp last
          rw [← accounts.filledSlot?_eq, named]
          rfl
      | ignored named done => simp [Handed.completion?] at last
      | refused missing => simp [Handed.completion?] at last
  settled := by
    rw [takes.handed]
    intro handed member slot named
    rcases List.mem_append.mp member with earlier | last
    · exact takes.keeps_flags (accounts.settled handed earlier slot named)
    · cases List.mem_singleton.mp last
      rw [← accounts.filledSlot?_eq] at named
      exact takes.settles named
  told := by
    rw [takes.events, takes.handed, accounts.told, List.filterMap_append]
    cases event : ({ result, outcome := outcome } : Handed).event? <;> simp [event]
  counted := by
    have counted := accounts.counted
    cases takes with
    | @completed slot package named clear marked =>
        have inside : slot < tracking.tracker.package.added :=
          (List.findIdx?_eq_some_iff_getElem.mp named).1
        have fewer := Package.markSlot?_pendingCount marked
        have more := (Tracker.keep_perm (accounts.fresh_results named clear)).length_eq
        simp only [inside, decide_true, Bool.and_self, Bool.toNat_true] at fewer
        rw [List.length_cons] at more
        simp only [more]
        omega
    | ignored named done => exact counted
    | refused missing => exact counted

theorem Accounts.interfere {first : Package} (accounts : tracking.Accounts first)
    (caller : Nat) (marking : Marking) :
    (tracking.interfere caller marking).Accounts first where
  same := (Package.call_pending _ marking).trans accounts.same
  ascending := accounts.ascending
  kept := accounts.kept
  firsts := accounts.firsts
  named := accounts.named
  settled := by
    intro handed member slot named
    exact Package.call_keeps_flags _ marking (accounts.settled handed member slot named)
  told := accounts.told
  counted := by
    have call := (Package.counts_pending first).call accounts.same caller marking
    have one := Answered.countP_concat
      (Answered.flipsIn first fun slot => slot < first.added) tracking.outside
      { caller, marking, reply := (tracking.tracker.package.call marking).1 }
    rw [Tracking.interfere, one, accounts.counted, call]
    simp only
    omega

theorem Accounts.completed {first : Package} (accounts : tracking.Accounts first)
    (member : result ∈ tracking.completions) :
    ∃ slot, first.filledSlot? result.number = some slot ∧
      tracking.tracker.package.isCompleted slot = true := by
  obtain ⟨slot, named⟩ := Option.isSome_iff_exists.mp (accounts.named result member)
  obtain ⟨handed, inside, completes⟩ := List.mem_filterMap.mp member
  rw [Handed.completion?_eq_some_iff] at completes
  refine ⟨slot, named, accounts.settled handed inside slot ?_⟩
  rw [completes]
  exact named

end Tracking

namespace Session

variable {session : Session} {turn : Turn} {next : Tracking}

/-- What a turn does to a tracker and its package. -/
inductive Advances (session : Session) : Turn → Tracking → Prop where
  | rest {turn : Turn} (nothing : session.incoming? turn = none) :
      Advances session turn session.toTracking
  | take {turn : Turn} {result : JobResult} {outcome : Except Fault Bool}
      {next : Tracking} (incoming : session.incoming? turn = some result)
      (takes : session.Takes result outcome next) : Advances session turn next
  | interfere (caller : Nat) (marking : Marking) :
      Advances session (.interfere caller marking)
        (session.toTracking.interfere caller marking)

theorem advances_hand (incoming : session.incoming? turn = some result) :
    session.Advances turn (session.hand result) := by
  obtain ⟨_, takes⟩ := session.hand_takes result
  exact .take incoming takes

theorem turn_advances (session : Session) (turn : Turn) :
    session.Advances turn (session.turn turn).toTracking := by
  cases turn with
  | send result =>
      rw [Session.turn]
      split <;> exact .rest rfl
  | hangUp => exact .rest rfl
  | interfere caller marking => exact .interfere caller marking
  | handle result =>
      rw [Session.turn]
      split
      · rename_i idle
        exact advances_hand (if_pos idle)
      · rename_i busy
        exact .rest (if_neg busy)
  | drain =>
      rw [Session.turn]
      split <;> exact .rest rfl
  | waitForAll =>
      rw [Session.turn]
      split <;> exact .rest rfl
  | goOn =>
      rw [Session.turn, goOn]
      split
      · apply Advances.rest
        simp [incoming?, *]
      · apply Advances.rest
        simp [incoming?, *]
      · split <;> apply advances_hand <;> simp [incoming?, *]
      · split <;> apply Advances.rest <;> simp [incoming?, *]
      · split <;> apply Advances.rest <;> simp [incoming?, *]
      · split <;> apply advances_hand <;> simp [incoming?, *]

theorem Advances.accounts (advances : session.Advances turn next)
    (accounts : session.Accounts package) : next.Accounts package := by
  cases advances with
  | rest => exact accounts
  | take incoming takes => exact accounts.take takes
  | interfere caller marking => exact accounts.interfere caller marking

theorem Advances.still_kept (advances : session.Advances turn next)
    (accounts : session.Accounts package) (member : result ∈ session.tracker.results) :
    result ∈ next.tracker.results := by
  have completion := accounts.kept.subset member
  apply (advances.accounts accounts).kept.symm.subset
  cases advances with
  | rest => exact completion
  | take incoming takes =>
      rw [takes.completions]
      exact List.mem_append_left _ completion
  | interfere caller marking => exact completion

theorem Advances.keeps_flags (advances : session.Advances turn next) {slot : Nat}
    (completed : session.tracker.package.isCompleted slot = true) :
    next.tracker.package.isCompleted slot = true := by
  cases advances with
  | rest => exact completed
  | take incoming takes => exact takes.keeps_flags completed
  | interfere caller marking => exact Package.call_keeps_flags _ marking completed

/-- Only others mark free slots. -/
theorem Advances.free (advances : session.Advances turn next)
    (own : ∀ caller marking, turn ≠ .interfere caller marking) :
    next.tracker.package.free = session.tracker.package.free := by
  cases advances with
  | rest => rfl
  | take incoming takes => exact takes.free
  | interfere caller marking => exact absurd rfl (own caller marking)

theorem play_accounts {session : Session} (accounts : session.Accounts package)
    (turns : List Turn) : (session.play turns).Accounts package := by
  induction turns generalizing session with
  | nil => exact accounts
  | cons turn turns induction =>
      exact induction ((session.turn_advances turn).accounts accounts)

end Session

/-- Whatever a session has come to, the tracker has kept the first result for each
number for which it completed a job, in ascending order, and that job is completed.
The events tell what the results came to that it was handed, and the pending jobs
are fewer by the results and by the filled slots that others have marked.  In no
turn is a result lost or a flag cleared; a turn either leaves everything, or takes
a result, which completes a job, is ignored or is refused, or is somebody else's,
and only then a free slot may be marked. -/
theorem tracker_keeps_its_accounts (package : Package) (turns : List Turn) :
    let session := (Session.ofPackage package).play turns
    (session.tracker.results.Pairwise (·.number < ·.number) ∧
      session.tracker.results.Perm session.completions ∧
      session.handed.Pairwise fun earlier later =>
        later.outcome = .ok true → earlier.result.number ≠ later.result.number) ∧
    (∀ result ∈ session.completions, ∃ slot,
      package.filledSlot? result.number = some slot ∧
        session.tracker.package.isCompleted slot = true) ∧
    (session.events = session.handed.filterMap Handed.event? ∧
      session.events.filterMap Event.completed? =
        session.completions.map JobResult.number) ∧
    package.pendingCount =
      session.tracker.package.pendingCount + session.tracker.results.length +
        session.outside.countP
          (Answered.flipsIn package fun slot => slot < package.added) ∧
    ∀ turn,
      let next := session.turn turn
      (∀ result ∈ session.tracker.results, result ∈ next.tracker.results) ∧
      (∀ slot, session.tracker.package.isCompleted slot = true →
        next.tracker.package.isCompleted slot = true) ∧
      session.Advances turn next.toTracking ∧
      ((∀ caller marking, turn ≠ .interfere caller marking) →
        next.tracker.package.free = session.tracker.package.free) := by
  intro session
  have accounts : session.Accounts package :=
    Session.play_accounts (Tracking.accounts_ofPackage package) turns
  have completions : session.events.filterMap Event.completed? =
      session.completions.map JobResult.number := by
    rw [accounts.told, Tracking.completions, List.filterMap_filterMap,
      List.map_filterMap]
    simp only [Handed.event?_completed?]
  refine ⟨⟨accounts.ascending, accounts.kept, accounts.firsts⟩, ?_,
    ⟨accounts.told, completions⟩, accounts.counted, ?_⟩
  · intro result member
    exact accounts.completed member
  · intro turn next
    have advances := session.turn_advances turn
    refine ⟨?_, ?_, advances, advances.free⟩
    · intro result member
      exact advances.still_kept accounts member
    · intro slot
      exact advances.keeps_flags

/-- Two pending jobs, and a free slot. -/
def exampleTracked : Package where
  filled := [{ number := 7 }, { number := 2 }]
  free := [{ number := 9 }]

def exampleTurns : List Turn :=
  [.send { number := 7 }, .send { number := 2 }, .send { number := 9 }, .drain,
    .goOn, .interfere 0 (.byNumber 2), .goOn]

/-- Somebody else completes the second job while the queue is drained, so that the
result for it comes too late.  The one for the free slot, which is next, ends the
draining and changes nothing else. -/
theorem example_session_keeps_accounts :
    let session := (Session.ofPackage exampleTracked).play exampleTurns
    let next := session.turn .goOn
    let result : JobResult := { number := 7 }
    session.events = [.jobCompleted 7, .duplicateIgnored 2] ∧
    (result ∈ session.completions ∧
      ∃ slot, exampleTracked.filledSlot? result.number = some slot ∧
        session.tracker.package.isCompleted slot = true) ∧
    (result ∈ session.tracker.results ∧ result ∈ next.tracker.results) ∧
    (session.tracker.package.isCompleted 1 = true ∧
      next.tracker.package.isCompleted 1 = true) ∧
    next.tracker.package.free = session.tracker.package.free ∧ next.task = .idle := by
  intro session next result
  obtain ⟨-, completed, -, -, goes⟩ :=
    tracker_keeps_its_accounts exampleTracked exampleTurns
  obtain ⟨kept, flags, -, free⟩ := goes .goOn
  have completes : result ∈ session.completions := by decide
  have stored : result ∈ session.tracker.results := by decide
  have marked : session.tracker.package.isCompleted 1 = true := by decide
  refine ⟨by decide, ⟨completes, completed result completes⟩,
    ⟨stored, kept result stored⟩, ⟨marked, flags 1 marked⟩, free ?_, by decide⟩
  intro caller marking same
  contradiction

end WorkPackage
