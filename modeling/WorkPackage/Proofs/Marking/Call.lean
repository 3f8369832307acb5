import WorkPackage.Proofs.Marking
import WorkPackage.Marking

/-!
# Calls that mark a job

Every call comes down to the swap of one flag, in a slot that the job numbers
alone determine; marking leaves the numbers alone.  What a swap counts down, if
it finds the flag clear, any number of calls count down by as many as there were
such swaps.
-/

namespace WorkPackage

variable {package next last : Package} {marking : Marking} {slot : Nat}
  {flipped : Bool}

theorem Job.countP_modify (jobs : List Job) (slot : Nat) :
    jobs.countP (fun job => !job.completed) =
      (jobs.modify slot Job.complete).countP (fun job => !job.completed) +
        ((jobs[slot]?).any fun job => !job.completed).toNat := by
  induction jobs generalizing slot with
  | nil => simp
  | cons head jobs induction =>
      cases slot with
      | zero =>
          cases flag : head.completed <;>
            simp [Job.complete, flag]
      | succ slot =>
          have later := induction slot
          simp only [List.modify_succ_cons, List.countP_cons, List.getElem?_cons_succ]
          omega

theorem Job.modify_completed {jobs : List Job} {slot : Nat}
    (completed : ∀ job, jobs[slot]? = some job → job.completed = true) :
    jobs.modify slot Job.complete = jobs := by
  apply List.ext_getElem?
  intro index
  rw [List.getElem?_modify]
  by_cases same : slot = index
  · subst same
    cases found : jobs[slot]? with
    | none => rfl
    | some job => simp [Job.complete, ← completed job found]
  · simp [same]

namespace Package

/-! ## What one call does -/

/-- Setting a flag that is set changes nothing. -/
theorem markSlot?_unflipped
    (marked : package.markSlot? slot = some (false, next)) : next = package := by
  obtain ⟨job, found, same⟩ := Option.map_eq_some_iff.mp marked
  obtain ⟨flag, rfl⟩ := Prod.mk.inj same
  have completed : job.completed = true := by simpa using flag
  have all : ∀ other, package.jobs[slot]? = some other → other.completed = true := by
    intro other otherFound
    rw [← Option.some.inj (found.symm.trans otherFound)]
    exact completed
  by_cases inside : slot < package.added
  · have filled : package.filled.modify slot Job.complete = package.filled := by
      apply Job.modify_completed
      intro other otherFound
      apply all
      rw [jobs, List.getElem?_append_left inside, otherFound]
    simp only [filled, if_pos inside]
  · have outside : package.filled.length ≤ slot := Nat.not_lt.mp inside
    have free : package.free.modify (slot - package.added) Job.complete =
        package.free := by
      apply Job.modify_completed
      intro other otherFound
      apply all
      rw [jobs, List.getElem?_append_right outside]
      exact otherFound
    simp only [free, if_neg inside, List.modify_eq_self outside]

/-- A call swaps the flag of its slot, or is refused if it has none. -/
theorem call_eq (package : Package) (marking : Marking) :
    package.call marking =
      ((marking.target? package).bind package.markSlot?).elim
        (marking.refusal, package) fun answer => (.swapped answer.1, answer.2) := by
  cases marking with
  | byNumber number =>
      rw [call, markCompleted_eq]
      cases marked : (package.jobs.findIdx? fun job => job.number = number).bind
        package.markSlot? <;> simp [Marking.target?, Marking.refusal, marked]
  | bySlot index =>
      have found : (Marking.target? package (.bySlot index)).bind package.markSlot? =
          package.markSlot? index := by
        rw [Marking.target?]
        split
        · rfl
        · have outside : package.jobs.length ≤ index := by
            rw [jobs, List.length_append]
            exact Nat.not_lt.mp ‹_›
          simp [markSlot?, List.getElem?_eq_none outside]
      rw [call, found]
      cases package.markSlot? index <;> rfl
  | byResult kept result =>
      have found : (Marking.target? package (.byResult kept result)).bind
          package.markSlot? = package.completeFilled? result.number :=
        (completeFilled?_eq package result.number).symm
      rw [call, Tracker.handle, found]
      cases marked : package.completeFilled? result.number with
      | none => rfl
      | some answer =>
          obtain ⟨flipped, next⟩ := answer
          cases flipped with
          | true => rfl
          | false =>
              -- The tracker drops the package that the swap leaves; it is the same.
              obtain ⟨slot, _, _, _, marks⟩ := completeFilled?_marks marked
              rw [markSlot?_unflipped marks]
              rfl

theorem target?_lt (finds : marking.target? package = some slot) :
    slot < package.jobs.length := by
  have shorter : package.filled.length ≤ package.jobs.length := by
    simp [jobs]
  cases marking with
  | byNumber number => exact (List.findIdx?_eq_some_iff_getElem.mp finds).1
  | bySlot index =>
      rw [Marking.target?] at finds
      split at finds
      · rw [← Option.some.inj finds, jobs, List.length_append]
        assumption
      · contradiction
  | byResult kept result =>
      exact Nat.lt_of_lt_of_le (List.findIdx?_eq_some_iff_getElem.mp finds).1 shorter

theorem call_cases (package : Package) (marking : Marking) :
    (marking.target? package = none ∧
      package.call marking = (marking.refusal, package)) ∨
    ∃ slot flipped next, marking.target? package = some slot ∧
      package.markSlot? slot = some (flipped, next) ∧
      package.call marking = (.swapped flipped, next) := by
  rw [call_eq]
  cases finds : marking.target? package with
  | none => exact .inl ⟨rfl, rfl⟩
  | some slot =>
      obtain ⟨flipped, next, marked⟩ := markSlot?_of_lt (target?_lt finds)
      refine .inr ⟨slot, flipped, next, rfl, marked, ?_⟩
      simp [marked]

theorem filledSlot?_pending (package : Package) (number : Int32) :
    package.pending.filledSlot? number = package.filledSlot? number := by
  simp only [filledSlot?, pending, List.findIdx?_map]
  rfl

/-- Flags have no part in finding a slot. -/
theorem target?_pending (package : Package) (marking : Marking) :
    marking.target? package.pending = marking.target? package := by
  cases marking with
  | byNumber number =>
      simp only [Marking.target?, jobs, pending, ← List.map_append, List.findIdx?_map]
      rfl
  | bySlot index =>
      have same : package.pending.capacity = package.capacity := by
        simp [capacity, pending]
      rw [Marking.target?, Marking.target?, same]
  | byResult kept result => exact filledSlot?_pending package result.number

theorem target?_of_pending (same : next.pending = package.pending)
    (marking : Marking) : marking.target? next = marking.target? package := by
  rw [← target?_pending next, same, target?_pending]

theorem call_pending (package : Package) (marking : Marking) :
    (package.call marking).2.pending = package.pending := by
  rcases call_cases package marking with ⟨_, same⟩ | ⟨_, _, _, _, marked, same⟩
  · rw [same]
  · rw [same]
    exact markSlot?_pending marked

/-! ## What one swap counts -/

section Swap

variable (marked : package.markSlot? slot = some (flipped, next))
include marked

theorem markSlot?_jobs : next.jobs = package.jobs.modify slot Job.complete := by
  apply List.ext_getElem?
  intro index
  rw [markSlot?_getElem? marked, List.getElem?_modify]
  rfl

theorem markSlot?_flips :
    flipped = (package.jobs[slot]?).any fun job => !job.completed := by
  obtain ⟨job, found, same⟩ := Option.map_eq_some_iff.mp marked
  rw [found, ← (Prod.mk.inj same).1]
  rfl

/-- The slot is completed now, and all others are as they were. -/
theorem markSlot?_isCompleted (index : Nat) :
    next.isCompleted index = (package.isCompleted index || decide (slot = index)) := by
  obtain ⟨job, found, _⟩ := Option.map_eq_some_iff.mp marked
  rw [isCompleted, isCompleted, markSlot?_getElem? marked]
  by_cases same : slot = index
  · simp [← same, found, Job.complete]
  · simp [same]

theorem markSlot?_was : package.isCompleted slot = !flipped := by
  obtain ⟨job, found, flips⟩ := Option.map_eq_some_iff.mp marked
  rw [← (Prod.mk.inj flips).1, isCompleted, found, Bool.not_not]
  rfl

/-- A slot is flipped only if it is not completed yet. -/
theorem markSlot?_uncompleted (index : Nat) :
    (!package.isCompleted index).toNat =
      (!next.isCompleted index).toNat + (flipped && decide (slot = index)).toNat := by
  rw [markSlot?_isCompleted marked]
  by_cases same : slot = index
  · subst same
    rw [markSlot?_was marked]
    cases flipped <;> simp
  · simp [same]

theorem markSlot?_remaining :
    package.remainingCount = next.remainingCount + flipped.toNat := by
  rw [remainingCount, remainingCount, markSlot?_jobs marked, markSlot?_flips marked]
  exact Job.countP_modify package.jobs slot

theorem markSlot?_filled : next.filled = package.filled.modify slot Job.complete := by
  obtain ⟨job, _, same⟩ := Option.map_eq_some_iff.mp marked
  cases same
  rfl

theorem markSlot?_pendingCount :
    package.pendingCount =
      next.pendingCount + (flipped && decide (slot < package.added)).toNat := by
  have flips := markSlot?_flips marked
  rw [pendingCount, pendingCount, pendingJobs, pendingJobs,
    ← List.countP_eq_length_filter, ← List.countP_eq_length_filter,
    markSlot?_filled marked, Job.countP_modify package.filled slot]
  congr 2
  by_cases inside : slot < package.added
  · rw [flips, jobs, List.getElem?_append_left inside]
    simp [inside]
  · rw [List.getElem?_eq_none (Nat.not_lt.mp inside)]
    simp [inside]

end Swap

/-- A call is refused for want of a slot, and changes nothing. -/
theorem call_refused {fault : Fault}
    (refused : (package.call marking).1 = .refused fault) :
    marking.target? package = none ∧ (package.call marking).2 = package := by
  rcases call_cases package marking with ⟨missing, same⟩ | ⟨_, _, _, _, _, same⟩
  · exact ⟨missing, by rw [same]⟩
  · rw [same] at refused
    contradiction

theorem call_keeps_flags (package : Package) (marking : Marking)
    (completed : package.isCompleted slot = true) :
    (package.call marking).2.isCompleted slot = true := by
  rcases call_cases package marking with ⟨_, same⟩ | ⟨_, _, _, _, marked, same⟩
  · rw [same]
    exact completed
  · rw [same, markSlot?_isCompleted marked, completed, Bool.true_or]

/-- A count that a swap lowers by one if it is counted, and otherwise leaves. -/
structure Counts (package : Package) (count : Package → Nat)
    (counted : Answered → Bool) : Prop where
  flips : ∀ answered, counted answered = true → answered.flips = true
  swap : ∀ before after answered slot flipped,
    before.pending = package.pending →
    before.markSlot? slot = some (flipped, after) →
    answered.marking.target? package = some slot →
    answered.reply = .swapped flipped →
    count before = count after + (counted answered).toNat

theorem counts_uncompleted (package : Package) (slot : Nat) :
    package.Counts (fun package => (!package.isCompleted slot).toNat)
      (Answered.flipsIn package fun index => index = slot) where
  flips := by simp +contextual [Answered.flipsIn]
  swap := by
    intro before next answered index flipped _ marked finds reply
    simp only [markSlot?_uncompleted marked slot, Answered.flipsIn, Answered.flips,
      reply, finds]
    cases flipped <;> simp

theorem counts_remaining (package : Package) :
    package.Counts remainingCount Answered.flips where
  flips := fun _ flips => flips
  swap := by
    intro before next answered slot flipped _ marked _ reply
    rw [markSlot?_remaining marked, Answered.flips, reply]
    cases flipped <;> rfl

theorem counts_pending (package : Package) :
    package.Counts pendingCount
      (Answered.flipsIn package fun slot => slot < package.added) where
  flips := by simp +contextual [Answered.flipsIn]
  swap := by
    intro before next answered slot flipped same marked finds reply
    have filled := congrArg (fun package => package.filled.length) same
    have added : before.added = package.added := by
      simpa [pending, Package.added] using filled
    rw [markSlot?_pendingCount marked, added, Answered.flipsIn, Answered.flips,
      reply, finds]
    cases flipped <;> simp

variable {count : Package → Nat} {counted : Answered → Bool}

theorem Counts.call (counts : package.Counts count counted) {before : Package}
    (same : before.pending = package.pending) (caller : Nat) (marking : Marking) :
    count before =
      count (before.call marking).2 +
        (counted { caller, marking, reply := (before.call marking).1 }).toNat := by
  rcases call_cases before marking with
    ⟨_, refused⟩ | ⟨slot, flipped, after, finds, marked, swapped⟩
  · rw [refused]
    cases flag : counted { caller, marking, reply := marking.refusal } with
    | false => rfl
    | true =>
        have flips := counts.flips _ flag
        cases marking <;> simp [Answered.flips, Marking.refusal] at flips
  · rw [swapped]
    rw [target?_of_pending same] at finds
    exact counts.swap before after _ slot flipped same marked finds rfl

/-! ## One call after the other -/

theorem callEach_cons (package : Package) (marking : Marking)
    (markings : List Marking) :
    package.callEach (marking :: markings) =
      ((package.call marking).1 :: ((package.call marking).2.callEach markings).1,
        ((package.call marking).2.callEach markings).2) :=
  rfl

theorem callEach_append (package : Package) (markings : List Marking)
    (marking : Marking) :
    package.callEach (markings ++ [marking]) =
      ((package.callEach markings).1 ++
          [((package.callEach markings).2.call marking).1],
        ((package.callEach markings).2.call marking).2) := by
  induction markings generalizing package with
  | nil => rfl
  | cons head markings induction =>
      rw [List.cons_append, callEach_cons, induction, callEach_cons, List.cons_append]

theorem callEach_pending (package : Package) (markings : List Marking) :
    (package.callEach markings).2.pending = package.pending := by
  induction markings generalizing package with
  | nil => rfl
  | cons marking markings induction =>
      rw [callEach_cons, induction, call_pending]

theorem Counts.callEach (counts : package.Counts count counted)
    {answers : List Answered} {before : Package}
    (same : before.pending = package.pending)
    (serial : before.callEach (answers.map Answered.marking) =
      (answers.map Answered.reply, last)) :
    count before = count last + answers.countP counted := by
  induction answers generalizing before with
  | nil =>
      cases serial
      rfl
  | cons answered answers induction =>
      rw [List.map_cons, callEach_cons] at serial
      obtain ⟨replies, ends⟩ := Prod.mk.inj serial
      obtain ⟨reply, later⟩ := List.cons.inj replies
      have rest := induction ((call_pending before answered.marking).trans same)
        (Prod.ext later ends)
      have one := counts.call same answered.caller answered.marking
      rw [reply] at one
      rw [one, rest, List.countP_cons]
      cases counted answered with
      | false => rfl
      | true =>
          simp only [Bool.toNat_true, if_true]
          omega

end Package

end WorkPackage
